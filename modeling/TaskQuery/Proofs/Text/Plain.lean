import TaskQuery.Text.Blank
import TaskQuery.Text.Casing

/-!
# Texts without certain characters

What the operations on texts do with a text that holds none of the characters they look for.

* `words_of_noBlank`, `squeeze_of_noBlank`, `trim_of_noBlank`: without blanks a text is one word.
* `lower_of_isLower`: a text of ASCII characters that are no capitals is its own lower case.
* `cut?_append_of_absent`, `cut?_eq_none_iff`: a text is cut where a separator occurs first.
* `cut?_append`, `splitOn_of_not_mem`, `splitOn_append`, `splitOn_map`: so cutting at a separator goes
  by the places of its first character.
-/

namespace TaskQuery.Text

variable {s : List Char}

/-! ## Tables -/

/-- What is found in a table is one of its entries. -/
theorem mem_of_lookup {α β : Type} [BEq α] [LawfulBEq α] {table : List (α × β)} {key : α} {v : β}
    (h : table.lookup key = some v) : (key, v) ∈ table := by
  obtain ⟨front, back, rfl, -⟩ := List.lookup_eq_some_iff.1 h
  exact List.mem_append_right front List.mem_cons_self

/-- What is the case of every code point of ASCII is so of every character of ASCII. -/
theorem forall_ascii {P : Char → Prop} (h : ∀ n < 128, P (Char.ofNat n)) (c : Char)
    (hc : c.toNat < 128) : P c := by
  have hascii := h c.toNat hc
  rwa [Char.ofNat_toNat] at hascii

/-! ## Blanks -/

/-- There is no blank in the text. -/
def NoBlank (s : List Char) : Prop := ∀ c ∈ s, isBlank c = false

/-- Whether a text has no blanks can be checked. -/
instance (s : List Char) : Decidable (NoBlank s) := List.decidableBAll _ s

/-- A text without blanks has none behind its first character. -/
theorem NoBlank.tail {c : Char} (h : NoBlank (c :: s)) : NoBlank s :=
  fun d hd => h d (List.mem_cons_of_mem c hd)

/-- A text without blanks is its leading word. -/
theorem leadingWord_of_noBlank (h : NoBlank s) : leadingWord s = (s, []) := by
  induction s with
  | nil => rfl
  | cons c s ih =>
    have hc : isBlank c = false := h c List.mem_cons_self
    rw [leadingWord, ih h.tail]
    simp only [hc, Bool.false_eq_true, if_false]

/-- A text without blanks is one word. -/
theorem words_of_noBlank (h : NoBlank s) (hs : s ≠ []) : words s = [s] := by
  rw [words, leadingWord_of_noBlank h]
  simp [hs]

/-- There is nothing to squeeze in a text without blanks. -/
theorem squeeze_of_noBlank (h : NoBlank s) : squeeze s = s := by
  cases s with
  | nil => rfl
  | cons c s =>
    rw [squeeze, words_of_noBlank h (List.cons_ne_nil c s)]
    rfl

/-- There is nothing to drop in front of a text without blanks. -/
theorem dropWhile_of_noBlank (h : NoBlank s) : s.dropWhile isBlank = s := by
  cases s with
  | nil => rfl
  | cons c s => exact List.dropWhile_cons_of_neg (by simp [h c List.mem_cons_self])

/-- There is nothing to trim off a text without blanks. -/
theorem trim_of_noBlank (h : NoBlank s) : trim s = s := by
  have hrev : NoBlank s.reverse := fun c hc => h c (List.mem_reverse.1 hc)
  rw [trim, strip, dropWhile_of_noBlank h, dropWhile_of_noBlank hrev, List.reverse_reverse]

/-! ## Letter case -/

/-- The text holds ASCII characters only, and no capitals among them. -/
def IsLower (s : List Char) : Prop := ∀ c ∈ s, c.toNat < 128 ∧ c.toLower = c

/-- Whether a text is in lower case can be checked. -/
instance (s : List Char) : Decidable (IsLower s) := List.decidableBAll _ s

/-- Lower case leaves a text in lower case as it is, wherever it stands. -/
theorem lowerAfter_of_isLower (before : List Char) (h : IsLower s) : lowerAfter before s = s := by
  induction s generalizing before with
  | nil => rfl
  | cons c s ih =>
    obtain ⟨hascii, hlower⟩ := h c List.mem_cons_self
    have hsigma : c ≠ 'Σ' := by
      rintro rfl
      simp at hascii
    rw [lowerAfter, if_neg hsigma, lowerChar, if_pos hascii, hlower,
      ih _ fun d hd => h d (List.mem_cons_of_mem c hd)]
    rfl

/-- A text in lower case is its own lower case. -/
theorem lower_of_isLower (h : IsLower s) : lower s = s := lowerAfter_of_isLower [] h

/-! ## Separators -/

/-- A part lies behind all that does not hold its first character. -/
theorem infix_of_infix_append {c : Char} {u front rest : List Char} (hc : c ∉ front)
    (h : c :: u <:+: front ++ rest) : c :: u <:+: rest := by
  induction front with
  | nil => exact h
  | cons d front ih =>
    obtain ⟨hne, hfront⟩ := not_or.1 (mt List.mem_cons.2 hc)
    rw [List.cons_append, List.infix_cons_iff, List.cons_prefix_cons] at h
    exact ih hfront (h.resolve_left fun hprefix => hne hprefix.1)

/-- A text is cut at a separator that does not start before, not even to end in what follows. -/
theorem cut?_append_of_absent {separator : List Char}
    (h : ¬separator <:+: s ++ separator.dropLast) (rest : List Char) :
    cut? separator (s ++ (separator ++ rest)) = some (s, rest) := by
  induction s with
  | nil =>
    cases separator with
    | nil => exact absurd List.nil_infix h
    | cons c separator =>
      have hprefix : (c :: separator).isPrefixOf (c :: (separator ++ rest)) = true :=
        List.isPrefixOf_iff_prefix.2 (List.prefix_append (c :: separator) rest)
      rw [List.nil_append, List.cons_append, cut?, if_pos hprefix, ← List.cons_append,
        List.drop_left]
  | cons d s ih =>
    rw [List.cons_append, List.infix_cons_iff, not_or] at h
    obtain ⟨hfront, htail⟩ := h
    -- a separator in front would end before the last character of the one that follows
    have hprefix : separator.isPrefixOf (d :: (s ++ (separator ++ rest))) = false := by
      rw [Bool.eq_false_iff]
      intro hprefix
      refine hfront (List.prefix_of_prefix_length_le (List.isPrefixOf_iff_prefix.1 hprefix) ?_ ?_)
      · rw [← List.cons_append, ← List.cons_append]
        exact (List.prefix_append_right_inj (d :: s)).2
          ((List.dropLast_prefix separator).trans (List.prefix_append separator rest))
      · simp only [List.length_cons, List.length_append, List.length_dropLast]
        omega
    rw [List.cons_append, cut?, hprefix, ih htail]
    rfl

/-- The first separator behind a text that does not hold its first character is where the whole
is cut. -/
theorem cut?_append {c : Char} (h : c ∉ s) (separator rest : List Char) :
    cut? (c :: separator) (s ++ (c :: separator ++ rest)) = some (s, rest) := by
  refine cut?_append_of_absent (fun hinfix => ?_) rest
  have hlength := (infix_of_infix_append h hinfix).length_le
  rw [List.length_dropLast, List.length_cons] at hlength
  omega

/-- In front of the place where a text is cut there is no separator. -/
theorem not_infix_of_cut? {separator before after : List Char}
    (h : cut? separator s = some (before, after)) (hne : separator ≠ []) :
    ¬separator <:+: before := by
  induction s generalizing before with
  | nil => simp [cut?, hne] at h
  | cons d s ih =>
    rw [cut?] at h
    split at h
    · obtain ⟨rfl, -⟩ := by simpa using h
      simpa using hne
    · next hprefix =>
      simp only [Option.map_eq_some_iff, Prod.mk.injEq, Prod.exists] at h
      obtain ⟨front, rest, hcut, rfl, rfl⟩ := h
      rw [List.infix_cons_iff]
      rintro (hfront | hfront)
      · refine hprefix (List.isPrefixOf_iff_prefix.2 (hfront.trans ?_))
        rw [eq_append_of_cut? hcut, List.append_assoc]
        exact List.prefix_append (d :: front) _
      · exact ih hcut hfront

/-- A text is cut exactly when it holds the separator. -/
theorem cut?_eq_none_iff {separator : List Char} : cut? separator s = none ↔ ¬separator <:+: s := by
  constructor
  · intro h
    induction s with
    | nil =>
      intro hinfix
      simp [cut?, List.infix_nil.1 hinfix] at h
    | cons c s ih =>
      rw [cut?] at h
      split at h
      · cases h
      · next hprefix =>
        rw [List.infix_cons_iff]
        rintro (hfront | hinfix)
        · exact hprefix (List.isPrefixOf_iff_prefix.2 hfront)
        · exact ih (Option.map_eq_none_iff.1 h) hinfix
  · intro h
    cases hcut : cut? separator s with
    | none => rfl
    | some p =>
      refine absurd ?_ h
      rw [eq_append_of_cut? hcut]
      exact ⟨p.1, p.2, rfl⟩

/-- A text that does not hold the first character of the separator is not cut. -/
theorem cut?_of_not_mem {c : Char} (separator : List Char) (h : c ∉ s) :
    cut? (c :: separator) s = none :=
  cut?_eq_none_iff.2 fun hpart => h (hpart.subset List.mem_cons_self)

/-- A text is split at its first separator and then behind it. -/
theorem splitOn_of_cut? {separator before after : List Char} (hne : separator ≠ [])
    (h : cut? separator s = some (before, after)) :
    splitOn separator s = before :: splitOn separator after := by
  rw [splitOn, dif_neg hne]
  split
  · next hcut =>
    rw [h] at hcut
    cases hcut
  · next before' after' hcut =>
    obtain ⟨rfl, rfl⟩ : before = before' ∧ after = after' := by simpa [h] using hcut
    rfl

/-- A text without the separator is its only part. -/
theorem splitOn_of_absent {separator : List Char} (h : ¬separator <:+: s) :
    splitOn separator s = [s] := by
  rw [splitOn]
  split
  · rfl
  · split
    · rfl
    · next hcut =>
      rw [cut?_eq_none_iff.2 h] at hcut
      cases hcut

/-- Without the first character of the separator there is nothing to split. -/
theorem splitOn_of_not_mem {c : Char} (separator : List Char) (h : c ∉ s) :
    splitOn (c :: separator) s = [s] :=
  splitOn_of_absent fun hpart => h (hpart.subset List.mem_cons_self)

/-- A text is split at a character that does not come before. -/
theorem splitOn_append {c : Char} (h : c ∉ s) (rest : List Char) :
    splitOn [c] (s ++ c :: rest) = s :: splitOn [c] rest :=
  splitOn_of_cut? (List.cons_ne_nil c []) (cut?_append h [] rest)

/-- What keeps a separator in its place and makes no new one goes through a text part by part. -/
theorem splitOn_map {c : Char} {f : List Char → List Char} (hfree : ∀ {t}, c ∉ t → c ∉ f t)
    (happend : ∀ s t, f (s ++ c :: t) = f s ++ c :: f t) (s : List Char) :
    splitOn [c] (f s) = (splitOn [c] s).map f := by
  induction h : s.length using Nat.strongRecOn generalizing s with
  | ind n ih =>
    by_cases hs : c ∈ s
    · obtain ⟨front, rest, rfl, hfront⟩ := List.eq_append_cons_of_mem hs
      have hrest := ih rest.length (by rw [← h]; simp; omega) rest rfl
      rw [happend, splitOn_append (hfree hfront), splitOn_append hfront, hrest, List.map_cons]
    · rw [splitOn_of_not_mem [] (hfree hs), splitOn_of_not_mem [] hs, List.map_singleton]

/-- A character is one of the separator, or it stays in one of the parts. -/
theorem mem_splitOn {c : Char} (separator : List Char) (h : c ∈ s) :
    c ∈ separator ∨ ∃ w ∈ splitOn separator s, c ∈ w := by
  induction s using splitOn.induct separator with
  | case1 s hnil =>
    rw [splitOn, dif_pos hnil]
    exact .inr ⟨s, List.mem_singleton_self s, h⟩
  | case2 s hne hcut =>
    rw [splitOn_of_absent (cut?_eq_none_iff.1 hcut)]
    exact .inr ⟨s, List.mem_singleton_self s, h⟩
  | case3 s hne before after hcut ih =>
    rw [splitOn_of_cut? hne hcut]
    rw [eq_append_of_cut? hcut, List.mem_append, List.mem_append] at h
    rcases h with (h | h) | h
    · exact .inr ⟨before, List.mem_cons_self, h⟩
    · exact .inl h
    · refine (ih h).imp id ?_
      rintro ⟨w, hw, hcw⟩
      exact ⟨w, List.mem_cons_of_mem _ hw, hcw⟩

end TaskQuery.Text
