import TaskQuery.Proofs.Calendar.DayCount
import TaskQuery.Proofs.DateFilter.Vocabulary
import TaskQuery.Proofs.Text.Quoting
import TaskQuery.Proofs.Text.Words

/-!
# Reading filters by parts

How a filter is read that is put together of other texts: inside double quotes, behind an
operator, and around `..`.

* `readText?` is one step of the reader, for the text inside the quotes; `readLower?_requote` says
  that a text is read by it with and without quotes around it.
* `readLower?_eq_none`: a text with a character of no filter is none, and neither is a text with a
  single quote (`readLower?_eq_none_of_count`).
* `readLower?_operator`: an operator in front of a text.
* `readLower?_range`, `read?_range`: two texts around `..`, the first one without `..` inside, with
  quotes around them or not.  The reader cuts at the first `..`, which may lie one place too early
  when the first text ends with a dot, and it looks for an operator first; in both cases neither
  side is the end of a range.
* `isPlain_of_readText?`: what stands for a period holds no quotes, operators and dots.
-/

namespace TaskQuery

open Text

namespace DateFilter

variable {today : Date} {weekStart : WeekStart} {s t left right text operand : List Char} {c : Char}
  {cmp : Comparison} {quoted : Bool}

/-! ## One step -/

/-- Read a filter from the text inside the quotes, or from a text without them. -/
def readText? (quoted : Bool) (text : List Char) (today : Date) (weekStart : WeekStart) :
    Option DateFilter :=
  if text = "none".toList then some absent
  else
    match Bucket.ofText? text with
    | some b => some (bucket b)
    | none =>
      match operator? text with
      | some (c, operand) => do
        let f ← readLower? (requote quoted operand) today weekStart
        let p ← f.operand? today
        return comparison c p
      | none =>
        match cut? "..".toList text with
        | some (left, right) => do
          let start ← (← readLower? left today weekStart).bounds? today
          let stop ← (← readLower? right today weekStart).bounds? today
          return range ⟨start.start, stop.stop⟩
        | none => atom? quoted text today weekStart

/-- Blanks are squeezed and quotes taken off before a filter is read. -/
theorem readLower?_eq (s : List Char) : readLower? s today weekStart =
    readText? (unquote (squeeze s)).1 (unquote (squeeze s)).2 today weekStart := by
  rw [readLower?]
  split
  next quoted text hu =>
    rw [hu, readText?]
    split
    · rfl
    · cases Bucket.ofText? text with
      | some b => rfl
      | none =>
        dsimp only
        split
        · next hop => rw [hop]
        · next hop =>
          rw [hop]
          dsimp only
          split
          · next hcut => rw [hcut]
          · next hcut => rw [hcut]

/-- Only the words of a text count. -/
theorem readLower?_of_words_eq (h : words s = words t) :
    readLower? s today weekStart = readLower? t today weekStart := by
  rw [readLower?_eq, readLower?_eq, squeeze, squeeze, h]

/-! ## Quotes -/

/-- Without quotes there are none to take off. -/
theorem unquote_of_not_mem (h : '"' ∉ s) : unquote s = (false, s) := by
  rw [unquote]
  cases s with
  | nil => rfl
  | cons c s =>
    have hc : c ≠ '"' := fun hc => h (hc ▸ List.mem_cons_self)
    rw [enclosed?_of_head_ne hc]

/-- Quotes around a text are taken off, with the blanks inside them. -/
theorem unquote_quotes (s : List Char) : unquote ('"' :: (s ++ ['"'])) = (true, trim s) := by
  rw [unquote, enclosed?_quotes]

/-- Squeezing brings no quotes in. -/
theorem not_mem_squeeze (h : '"' ∉ s) : '"' ∉ squeeze s :=
  fun hmem => h ((mem_iff_of_words_eq (words_squeeze s) (by decide)).1 hmem)

/-- A text in double quotes is read in one step. -/
theorem readLower?_quotes (s : List Char) :
    readLower? (requote true s) today weekStart = readText? true (squeeze s) today weekStart := by
  rw [readLower?_eq, requote, if_pos rfl, List.cons_append, squeeze_quotes, unquote_quotes,
    squeeze_eq_trim_squash]

/-- A text without double quotes is read in one step, with quotes around it or not. -/
theorem readLower?_requote (h : '"' ∉ s) (quoted : Bool) :
    readLower? (requote quoted s) today weekStart =
      readText? quoted (squeeze s) today weekStart := by
  cases quoted with
  | false =>
    rw [readLower?_eq, requote, if_neg (by decide), unquote_of_not_mem (not_mem_squeeze h)]
  | true => exact readLower?_quotes s

/-- A text without double quotes is read as it stands. -/
theorem readLower?_of_not_mem (h : '"' ∉ s) :
    readLower? s today weekStart = readText? false (squeeze s) today weekStart :=
  readLower?_requote h false

/-! ## The ways of a step -/

/-- A text with an operator is the operator and its operand. -/
theorem eq_symbol_append_of_operator? (h : operator? text = some (cmp, operand)) :
    text = cmp.symbol.toList ++ operand := by
  unfold operator? at h
  split at h
  case h_5 => cases h
  all_goals
    simp only [Option.some.injEq, Prod.mk.injEq] at h
    obtain ⟨rfl, rfl⟩ := h
    rfl

/-- The sign in front decides whether there is an operator. -/
theorem operator?_eq_none_iff :
    operator? text = none ↔ text.head? ≠ some '<' ∧ text.head? ≠ some '>' := by
  unfold operator?
  split
  case h_5 hge hle hgt hlt =>
    refine iff_of_true rfl ⟨fun h => ?_, fun h => ?_⟩
    · exact hlt _ (List.eq_cons_of_mem_head? h)
    · exact hgt _ (List.eq_cons_of_mem_head? h)
  all_goals simp

/-- The text of a bucket is read as the bucket. -/
theorem readText?_of_ofText? {b : Bucket} (h : Bucket.ofText? text = some b) :
    readText? quoted text today weekStart = some (bucket b) := by
  have hname : text ≠ "none".toList := by
    have hnone : Bucket.ofText? "none".toList = none := by decide
    rintro rfl
    rw [hnone] at h
    cases h
  rw [readText?, if_neg hname, h]

/-- Behind an operator stands what the comparison is with. -/
theorem readText?_of_operator? (h : operator? text = some (cmp, operand)) :
    readText? quoted text today weekStart =
      ((readLower? (requote quoted operand) today weekStart).bind (operand? today)).map
        (comparison cmp) := by
  obtain ⟨c, hmem, hplain⟩ : ∃ c ∈ text, ¬IsPlainChar c := by
    rw [eq_symbol_append_of_operator? h]
    cases cmp
    · exact ⟨'>', List.mem_cons_self, by decide⟩
    · exact ⟨'>', List.mem_cons_self, by decide⟩
    · exact ⟨'<', List.mem_cons_self, by decide⟩
    · exact ⟨'<', List.mem_cons_self, by decide⟩
  rw [readText?, if_neg (ne_none_of_mem hmem hplain), Bucket.ofText?_eq_none_of_mem hmem hplain, h]
  simp only [Option.bind_eq_bind, Option.map_eq_bind, Option.bind_assoc]
  rfl

/-- Around `..` stand the ends of a range. -/
theorem readText?_of_cut? (hop : operator? text = none)
    (hcut : cut? "..".toList text = some (left, right)) :
    readText? quoted text today weekStart =
      ((readLower? left today weekStart).bind (bounds? today)).bind fun start =>
        ((readLower? right today weekStart).bind (bounds? today)).map fun stop =>
          range ⟨start.start, stop.stop⟩ := by
  have hmem : '.' ∈ text := by
    rw [eq_append_of_cut? hcut]
    simp
  have hplain : ¬IsPlainChar '.' := by decide
  rw [readText?, if_neg (ne_none_of_mem hmem hplain), Bucket.ofText?_eq_none_of_mem hmem hplain, hop]
  dsimp only
  rw [hcut]
  simp only [Option.bind_eq_bind, Option.map_eq_bind, Option.bind_assoc]
  rfl

/-- Without either, a text is `none`, a bucket, or read in one piece. -/
theorem readText?_of_whole (hop : operator? text = none) (hcut : cut? "..".toList text = none) :
    readText? quoted text today weekStart =
      if text = "none".toList then some absent
      else ((Bucket.ofText? text).map bucket).or (atom? quoted text today weekStart) := by
  rw [readText?, hop, hcut]
  cases Bucket.ofText? text <;> rfl

/-- A character that is not plain has no place in it. -/
theorem readText?_eq_none (hop : operator? text = none) (hcut : cut? "..".toList text = none)
    (hc : c ∈ text) (hplain : ¬IsPlainChar c) : readText? quoted text today weekStart = none := by
  rw [readText?_of_whole hop hcut, if_neg (ne_none_of_mem hc hplain),
    Bucket.ofText?_eq_none_of_mem hc hplain, atom?_eq_none_of_mem hc hplain]
  rfl

/-! ## Characters that occur in no filter -/

/-- Quotes are all that is lost of what is not plain. -/
theorem mem_of_unquote_squeeze (hu : unquote (squeeze s) = (quoted, text)) (hc : c ∈ s)
    (hplain : ¬IsPlainChar c) (hquote : c ≠ '"') : c ∈ text := by
  have hblank : isBlank c = false := by simpa using mt Or.inl hplain
  have hmem : c ∈ squeeze s := (mem_iff_of_words_eq (words_squeeze s) hblank).2 hc
  unfold unquote at hu
  split at hu
  · next inner hinner =>
    obtain ⟨-, rfl⟩ := Prod.mk.inj hu
    rw [eq_of_enclosed? hinner] at hmem
    have hinside : c ∈ inner := by simpa [hquote] using hmem
    exact (mem_iff_of_words_eq (words_trim inner) hblank).2 hinside
  · obtain ⟨-, rfl⟩ := Prod.mk.inj hu
    exact hmem

/-- **A text with a character that is neither plain nor a mark is no date filter.**  The induction
follows the reader, which passes the character on to one of the parts. -/
theorem readLower?_eq_none (hplain : ¬IsPlainChar c) (hmark : ¬IsMark c) (hc : c ∈ s) :
    readLower? s today weekStart = none := by
  have hquote : c ≠ '"' := by
    rintro rfl
    exact hmark (by decide)
  induction s using readLower?.induct with
  | case1 s quoted hu =>
    have htext := mem_of_unquote_squeeze hu hc hplain hquote
    exact absurd rfl (ne_none_of_mem htext hplain)
  | case2 s quoted text hu _ b hb =>
    have htext := mem_of_unquote_squeeze hu hc hplain hquote
    rw [Bucket.ofText?_eq_none_of_mem htext hplain] at hb
    cases hb
  | case3 s quoted text hu _ _ cmp operand hop ih =>
    have htext := mem_of_unquote_squeeze hu hc hplain hquote
    have hsymbol : c ∉ cmp.symbol.toList := fun hmem => hmark (isMark_of_mem_symbol hmem)
    have hoperand : c ∈ operand := by
      rw [eq_symbol_append_of_operator? hop] at htext
      exact (List.mem_append.1 htext).resolve_left hsymbol
    have hrequote : c ∈ requote quoted operand := by
      cases quoted <;> simp [requote, hoperand]
    rw [readLower?_eq, hu, readText?_of_operator? hop, ih hrequote]
    rfl
  | case4 s quoted text hu _ _ hop left right hcut ihleft ihright =>
    have htext := mem_of_unquote_squeeze hu hc hplain hquote
    rw [eq_append_of_cut? hcut] at htext
    have hdots : c ∉ "..".toList := by
      intro hmem
      obtain rfl : c = '.' := by simpa using hmem
      exact hmark (by decide)
    rw [readLower?_eq, hu, readText?_of_cut? hop hcut]
    rcases List.mem_append.1 htext with hmem | hright
    · have hleft := (List.mem_append.1 hmem).resolve_right hdots
      rw [ihleft hleft]
      rfl
    · rw [ihright hright]
      simp
  | case5 s quoted text hu _ _ hop hcut =>
    have htext := mem_of_unquote_squeeze hu hc hplain hquote
    rw [readLower?_eq, hu, readText?_eq_none hop hcut htext hplain]

/-! ## A single quote -/

/-- Around a text stand two quotes. -/
theorem unquote_of_count (h : s.count '"' = 1) : unquote s = (false, s) := by
  rw [unquote]
  cases hinner : enclosed? s with
  | none => rfl
  | some inner =>
    rw [eq_of_enclosed? hinner] at h
    simp at h

/-- **A text with a single quote is no date filter.**  The quote is in one of the parts that the
reader looks at, where it is single again. -/
theorem readLower?_eq_none_of_count (h : s.count '"' = 1) :
    readLower? s today weekStart = none := by
  have hplain : ¬IsPlainChar '"' := by decide
  have hunquote : ∀ {s quoted text}, List.count '"' s = 1 →
      unquote (squeeze s) = (quoted, text) → quoted = false ∧ text.count '"' = 1 := by
    intro s quoted text hs hu
    have hcount : (squeeze s).count '"' = 1 := by
      rw [count_eq_of_words_eq (words_squeeze s) (by decide), hs]
    rw [unquote_of_count hcount, Prod.mk.injEq] at hu
    exact ⟨hu.1.symm, hu.2 ▸ hcount⟩
  have hmem : ∀ {text : List Char}, text.count '"' = 1 → '"' ∈ text := fun htext =>
    List.count_pos_iff.1 (by omega)
  induction s using readLower?.induct with
  | case1 s quoted hu => exact absurd (hunquote h hu).2 (by decide)
  | case2 s quoted text hu _ b hb =>
    rw [Bucket.ofText?_eq_none_of_mem (hmem (hunquote h hu).2) hplain] at hb
    cases hb
  | case3 s quoted text hu _ _ cmp operand hop ih =>
    obtain ⟨rfl, htext⟩ := hunquote h hu
    have hoperand : operand.count '"' = 1 := by
      have hsymbol : cmp.symbol.toList.count '"' = 0 := by cases cmp <;> decide
      rwa [eq_symbol_append_of_operator? hop, List.count_append, hsymbol, Nat.zero_add] at htext
    rw [readLower?_eq, hu, readText?_of_operator? hop, ih hoperand]
    rfl
  | case4 s quoted text hu _ _ hop left right hcut ihleft ihright =>
    obtain ⟨-, htext⟩ := hunquote h hu
    have hparts : left.count '"' + right.count '"' = 1 := by
      rwa [eq_append_of_cut? hcut, List.count_append, List.count_append,
        show List.count '"' "..".toList = 0 by decide, Nat.add_zero] at htext
    rw [readLower?_eq, hu, readText?_of_cut? hop hcut]
    rcases Nat.add_eq_one_iff.1 hparts with ⟨-, hright⟩ | ⟨hleft, -⟩
    · rw [ihright hright]
      simp
    · rw [ihleft hleft]
      rfl
  | case5 s quoted text hu _ _ hop hcut =>
    rw [readLower?_eq, hu, readText?_eq_none hop hcut (hmem (hunquote h hu).2) hplain]

/-! ## Lower case of a text in quotes -/

/-- Quotes do not change in lower case. -/
theorem lower_requote (hs : 'Σ' ∉ s) (quoted : Bool) :
    lower (requote quoted s) = requote quoted (lower s) := by
  cases quoted with
  | false => rfl
  | true =>
    have hquote : lower ['"'] = ['"'] := by decide
    have hfront : 'Σ' ∉ '"' :: s := by simp [hs]
    rw [requote, if_pos rfl, lower_append hfront (by decide), hquote]
    show lower (['"'] ++ s) ++ ['"'] = _
    rw [lower_append (by decide) hs, hquote]
    rfl

/-- A text is read in lower case, in quotes or not. -/
theorem read?_requote_of_not_sigma (hs : 'Σ' ∉ s) (quoted : Bool) :
    read? (String.ofList (requote quoted s)) today weekStart =
      readLower? (requote quoted (lower s)) today weekStart := by
  rw [read?, String.toList_ofList, lower_requote hs]

/-- With a sigma a text is no date filter. -/
theorem read?_requote_of_sigma (hs : 'Σ' ∈ s) (quoted : Bool) :
    read? (String.ofList (requote quoted s)) today weekStart = none := by
  have hmem : 'Σ' ∈ requote quoted s := by
    cases quoted <;> simp [requote, hs]
  obtain ⟨c, hc, hsigma⟩ := exists_sigma_mem_lower hmem
  rw [read?, String.toList_ofList]
  rcases hsigma with rfl | rfl
  · exact readLower?_eq_none (by decide) (by decide) hc
  · exact readLower?_eq_none (by decide) (by decide) hc

/-! ## An operator in front -/

/-- No operator has a quote. -/
theorem not_mem_symbol (cmp : Comparison) : '"' ∉ cmp.symbol.toList := by
  cases cmp <;> decide

/-- An operator in front of a text, read apart from the text that is left of it. -/
theorem readLower?_symbol_append
    (hop : operator? (cmp.symbol.toList ++ trimEnd (squash s)) = some (cmp, trimEnd (squash s)))
    (hs : '"' ∉ s) (quoted : Bool) :
    readLower? (requote quoted (cmp.symbol.toList ++ s)) today weekStart =
      ((readLower? (requote quoted s) today weekStart).bind (operand? today)).map
        (comparison cmp) := by
  have hsymbol : NoBlank cmp.symbol.toList ∧ cmp.symbol.toList ≠ [] := by
    cases cmp <;> decide
  have hquote : '"' ∉ cmp.symbol.toList ++ s := by simp [not_mem_symbol, hs]
  have hsqueeze : squeeze (cmp.symbol.toList ++ s) = cmp.symbol.toList ++ trimEnd (squash s) :=
    squeeze_append hsymbol.1 hsymbol.2 [] s
  have hwords : words (trimEnd (squash s)) = words s := by rw [words_trimEnd, words_squash]
  have hoperand : '"' ∉ trimEnd (squash s) := fun h =>
    hs ((mem_iff_of_words_eq hwords (by decide)).1 h)
  rw [readLower?_requote hquote, hsqueeze, readText?_of_operator? hop,
    readLower?_requote hoperand, readLower?_requote hs, squeeze, hwords, squeeze]

/-- **An operator in front of a text** that it does not join with. -/
theorem readLower?_operator (cmp : Comparison)
    (hop : ∀ t, operator? (cmp.symbol.toList ++ t) = some (cmp, t))
    (hs : '"' ∉ s) (quoted : Bool) :
    readLower? (requote quoted (cmp.symbol.toList ++ s)) today weekStart =
      ((readLower? (requote quoted s) today weekStart).bind (operand? today)).map
        (comparison cmp) :=
  readLower?_symbol_append (hop _) hs quoted

/-- An operator joins with nothing but a sign of equality. -/
theorem operator?_symbol_append (cmp : Comparison) (h : '=' ∉ t) :
    operator? (cmp.symbol.toList ++ t) = some (cmp, t) := by
  have hjoin : ∀ u, t ≠ '=' :: u := by
    rintro u rfl
    exact h List.mem_cons_self
  cases cmp with
  | notBefore => rfl
  | notAfter => rfl
  | after =>
    show operator? ('>' :: t) = _
    rw [operator?]
    exact hjoin
  | before =>
    show operator? ('<' :: t) = _
    rw [operator?]
    exact hjoin

/-! ## Dots -/

/-- A single dot has no place in what bounds a range. -/
theorem bounds?_eq_none_of_dot (hs : '"' ∉ s) (hdot : '.' ∈ s) (hdots : ¬"..".toList <:+: s) :
    (readLower? s today weekStart).bind (bounds? today) = none := by
  have hwords := words_squeeze s
  have hdot' : '.' ∈ squeeze s := (mem_iff_of_words_eq hwords (by decide)).2 hdot
  have hdots' : ¬"..".toList <:+: squeeze s :=
    mt (infix_iff_of_words_eq hwords (by decide) (by decide)).1 hdots
  rw [readLower?_of_not_mem hs]
  cases hop : operator? (squeeze s) with
  | some p =>
    rw [readText?_of_operator? hop]
    cases (readLower? (requote false p.2) today weekStart).bind (operand? today) <;> rfl
  | none =>
    rw [readText?_eq_none hop (cut?_eq_none_iff.2 hdots') hdot' (by decide)]
    rfl

/-- No text is no filter. -/
theorem readLower?_nil : readLower? [] today weekStart = none := by
  have hdigits : Period.ofDigits? [] = none := by decide +kernel
  rw [readLower?_eq]
  show atom? false [] today weekStart = none
  rw [atom?, hdigits]
  rfl

/-- What is cut off in front of the first `..` is the end of no range when it is empty or has a
dot. -/
theorem bounds?_eq_none_of_cut? (hs : '"' ∉ s) (hcut : cut? "..".toList s = some (left, right))
    (hleft : left = [] ∨ '.' ∈ left) : (readLower? left today weekStart).bind (bounds? today) = none := by
  rcases hleft with rfl | hdot
  · rw [readLower?_nil]
    rfl
  · refine bounds?_eq_none_of_dot ?_ hdot (not_infix_of_cut? hcut (by decide))
    rw [eq_append_of_cut? hcut] at hs
    simp only [List.mem_append, not_or] at hs
    exact hs.1.1

/-- A dot in front has no place either. -/
theorem bounds?_eq_none_of_leading_dot (hs : '"' ∉ '.' :: s) :
    (readLower? ('.' :: s) today weekStart).bind (bounds? today) = none := by
  have hsqueeze : squeeze ('.' :: s) = '.' :: trimEnd (squash s) :=
    squeeze_append (u := ['.']) (by decide) (by decide) [] s
  cases hcut : cut? "..".toList (squeeze ('.' :: s)) with
  | none =>
    have hdots := mt (infix_iff_of_words_eq (words_squeeze ('.' :: s)) (by decide) (by decide)).2
      (cut?_eq_none_iff.1 hcut)
    exact bounds?_eq_none_of_dot hs List.mem_cons_self hdots
  | some p =>
    obtain ⟨left, right⟩ := p
    have hop : operator? (squeeze ('.' :: s)) = none := by
      rw [hsqueeze]
      exact operator?_eq_none_iff.2 ⟨by simp, by simp⟩
    have hleft : left = [] ∨ '.' ∈ left := by
      cases left with
      | nil => exact .inl rfl
      | cons d left =>
        have heq := eq_append_of_cut? hcut
        rw [hsqueeze] at heq
        obtain ⟨rfl, -⟩ := List.cons.inj heq
        exact .inr List.mem_cons_self
    rw [readLower?_of_not_mem hs, readText?_of_cut? hop hcut,
      bounds?_eq_none_of_cut? (not_mem_squeeze hs) hcut hleft]
    rfl

/-! ## Two texts around dots -/

/-- What holds `..` is nothing that a comparison can be with. -/
theorem operand?_eq_none_of_dots (hs : '"' ∉ s) (hdots : "..".toList <:+: s) (quoted : Bool) :
    (readLower? (requote quoted s) today weekStart).bind (operand? today) = none := by
  have hdots' : "..".toList <:+: squeeze s :=
    (infix_iff_of_words_eq (words_squeeze s) (by decide) (by decide)).2 hdots
  rw [readLower?_requote hs]
  cases hop : operator? (squeeze s) with
  | some p =>
    rw [readText?_of_operator? hop]
    cases (readLower? (requote quoted p.2) today weekStart).bind (operand? today) <;> rfl
  | none =>
    cases hcut : cut? "..".toList (squeeze s) with
    | none => exact absurd hdots' (cut?_eq_none_iff.1 hcut)
    | some p =>
      rw [readText?_of_cut? hop hcut]
      cases (readLower? p.1 today weekStart).bind (bounds? today) with
      | none => rfl
      | some start => cases (readLower? p.2 today weekStart).bind (bounds? today) <;> rfl

/-- What starts with an operator is no end of a range. -/
theorem bounds?_eq_none_of_operator? (hs : '"' ∉ s) (hop : operator? s ≠ none) :
    (readLower? s today weekStart).bind (bounds? today) = none := by
  have hsqueeze : operator? (squeeze s) ≠ none := by
    intro hnone
    refine hop (operator?_eq_none_iff.2 ?_)
    cases s with
    | nil => exact ⟨by simp, by simp⟩
    | cons c s =>
      obtain ⟨hlt, hgt⟩ := operator?_eq_none_iff.1 hnone
      refine ⟨?_, ?_⟩
      · rintro ⟨⟩
        exact hlt (congrArg List.head? (squeeze_append (u := ['<']) (by decide) (by decide) [] s))
      · rintro ⟨⟩
        exact hgt (congrArg List.head? (squeeze_append (u := ['>']) (by decide) (by decide) [] s))
  obtain ⟨p, hp⟩ := Option.ne_none_iff_exists'.1 hsqueeze
  rw [readLower?_of_not_mem hs, readText?_of_operator? hp]
  cases (readLower? (requote false p.2) today weekStart).bind (operand? today) <;> rfl

/-- A text with a dot is not cut behind all of its dots only if the dot at its end is taken for one
of the two. -/
theorem dot_of_cut? {front rest : List Char} (hdot : '.' ∈ front) (hdots : ¬"..".toList <:+: front)
    (hcut : cut? "..".toList (front ++ ("..".toList ++ rest)) = some (left, right)) :
    '.' ∈ left ∨ right = '.' :: rest := by
  have heq := eq_append_of_cut? hcut
  rw [List.append_assoc, List.append_eq_append_iff] at heq
  rcases heq with ⟨after, rfl, -⟩ | ⟨after, rfl, hafter⟩
  · exact .inl (List.mem_append_left _ hdot)
  · rcases after with _ | ⟨d, _ | ⟨e, after⟩⟩
    · exact .inl (by simpa using hdot)
    · exact .inr (List.cons.inj (List.cons.inj hafter).2).2
    · obtain ⟨rfl, rfl, -⟩ : '.' = d ∧ '.' = e ∧ _ := by simpa using hafter
      exact absurd ⟨left, after, by simp⟩ hdots

/-- Around the first `..` stand the ends of a range, and nothing that could be an end stands
around another one. -/
theorem readText?_range {front rest : List Char} (hf : '"' ∉ front) (hr : '"' ∉ rest)
    (hdots : ¬"..".toList <:+: front) (quoted : Bool) :
    readText? quoted (front ++ ("..".toList ++ rest)) today weekStart =
      ((readLower? front today weekStart).bind (bounds? today)).bind fun start =>
        ((readLower? rest today weekStart).bind (bounds? today)).map fun stop =>
          range ⟨start.start, stop.stop⟩ := by
  have hquote : '"' ∉ front ++ ("..".toList ++ rest) := by simp [hf, hr]
  have hinfix : "..".toList <:+: front ++ ("..".toList ++ rest) := ⟨front, rest, by simp⟩
  cases hop : operator? (front ++ ("..".toList ++ rest)) with
  | some p =>
    obtain ⟨cmp, operand⟩ := p
    have heq := eq_symbol_append_of_operator? hop
    have hoperand : '"' ∉ operand := by
      rw [heq] at hquote
      exact fun h => hquote (List.mem_append_right _ h)
    have hsymbol : '.' ∉ cmp.symbol.toList := by cases cmp <;> decide
    have hbehind : "..".toList <:+: operand := infix_of_infix_append hsymbol (heq ▸ hinfix)
    have hfront : operator? front ≠ none := by
      intro hnone
      have hhead := operator?_eq_none_iff.1 hnone
      have hwhole : operator? (front ++ ("..".toList ++ rest)) = none := by
        refine operator?_eq_none_iff.2 ?_
        cases front with
        | nil => exact ⟨by simp, by simp⟩
        | cons c front => exact hhead
      rw [hop] at hwhole
      cases hwhole
    rw [readText?_of_operator? hop, bounds?_eq_none_of_operator? hf hfront,
      operand?_eq_none_of_dots hoperand hbehind]
    rfl
  | none =>
    by_cases hdot : '.' ∈ front
    · rw [bounds?_eq_none_of_dot hf hdot hdots]
      obtain ⟨p, hp⟩ := Option.ne_none_iff_exists'.1 (mt cut?_eq_none_iff.1 (not_not_intro hinfix))
      obtain ⟨left, right⟩ := p
      rw [readText?_of_cut? hop hp]
      rcases dot_of_cut? hdot hdots hp with hleft | rfl
      · rw [bounds?_eq_none_of_cut? hquote hp (.inr hleft)]
        rfl
      · rw [bounds?_eq_none_of_leading_dot (by simp [hr])]
        cases (readLower? left today weekStart).bind (bounds? today) <;> rfl
    · exact readText?_of_cut? hop (cut?_append hdot ['.'] rest)

/-- **Two texts around `..`** are read as the ends of a range, when there is no `..` in the first
one.  Quotes around the two do not reach them. -/
theorem readLower?_range (hl : '"' ∉ left) (hr : '"' ∉ right) (hdots : ¬"..".toList <:+: left)
    (quoted : Bool) :
    readLower? (requote quoted (left ++ ("..".toList ++ right))) today weekStart =
      ((readLower? left today weekStart).bind (bounds? today)).bind fun start =>
        ((readLower? right today weekStart).bind (bounds? today)).map fun stop =>
          range ⟨start.start, stop.stop⟩ := by
  have hwordsl : words ((squash left).dropWhile isBlank) = words left := by
    rw [words_dropWhile, words_squash]
  have hwordsr : words (trimEnd (squash right)) = words right := by
    rw [words_trimEnd, words_squash]
  have hsqueeze : squeeze (left ++ ("..".toList ++ right)) =
      (squash left).dropWhile isBlank ++ ("..".toList ++ trimEnd (squash right)) :=
    squeeze_append (by decide) (by decide) left right
  rw [readLower?_requote (by simp [hl, hr]), hsqueeze, readText?_range,
    readLower?_of_words_eq hwordsl, readLower?_of_words_eq hwordsr]
  · exact mt (mem_iff_of_words_eq hwordsl (by decide)).1 hl
  · exact mt (mem_iff_of_words_eq hwordsr (by decide)).1 hr
  · exact mt (infix_iff_of_words_eq hwordsl (by decide) (by decide)).1 hdots

/-- No filter is spelled with a capital sigma. -/
theorem read?_of_sigma {text : String} (h : 'Σ' ∈ text.toList) :
    read? text today weekStart = none := by
  rw [← String.ofList_toList (s := text)]
  exact read?_requote_of_sigma h false

/-- What is read as a filter has no capital sigma. -/
theorem not_sigma_mem_of_read? {text : String} {f : DateFilter}
    (h : read? text today weekStart = some f) : 'Σ' ∉ text.toList := by
  intro hmem
  rw [read?_of_sigma hmem] at h
  cases h

/-- The two texts in any letter case. -/
theorem read?_range {start stop : String} (hstart : '"' ∉ start.toList) (hstop : '"' ∉ stop.toList)
    (hdots : ¬"..".toList <:+: start.toList) (quoted : Bool) :
    read? (String.ofList (requote quoted (start ++ ".." ++ stop).toList)) today weekStart =
      ((read? start today weekStart).bind (bounds? today)).bind fun first =>
        ((read? stop today weekStart).bind (bounds? today)).map fun last =>
          range ⟨first.start, last.stop⟩ := by
  have htext : (start ++ ".." ++ stop).toList = start.toList ++ ("..".toList ++ stop.toList) := by
    rw [String.toList_append, String.toList_append, List.append_assoc]
  rw [htext]
  by_cases hsigmaStart : 'Σ' ∈ start.toList
  · rw [read?_requote_of_sigma (by simp [hsigmaStart]), read?_of_sigma hsigmaStart]
    rfl
  by_cases hsigmaStop : 'Σ' ∈ stop.toList
  · rw [read?_requote_of_sigma (by simp [hsigmaStop]), read?_of_sigma hsigmaStop]
    cases (read? start today weekStart).bind (bounds? today) <;> rfl
  have hbehind : 'Σ' ∉ "..".toList ++ stop.toList := by simp [hsigmaStop]
  have hlower : lower (start.toList ++ ("..".toList ++ stop.toList)) =
      lower start.toList ++ ("..".toList ++ lower stop.toList) := by
    have hlowerDots : lower "..".toList = "..".toList := by decide
    rw [lower_append hsigmaStart hbehind, lower_append (by decide) hsigmaStop, hlowerDots]
  rw [read?_requote_of_not_sigma (by simp [hsigmaStart, hsigmaStop]), hlower,
    readLower?_range (mt (mem_of_mem_lower (by decide)) hstart)
      (mt (mem_of_mem_lower (by decide)) hstop) (not_dots_infix_lower hsigmaStart hdots)]
  rfl

/-! ## Ends of ranges and operands of comparisons -/

/-- What is no range bounds a range by the period that it gives a comparison. -/
theorem bounds?_eq_map_operand? {f : DateFilter} (h : ∀ r, f ≠ range r) :
    f.bounds? today = (f.operand? today).map Period.range := by
  cases f with
  | range r => exact absurd rfl (h r)
  | bucket b =>
    cases b with
    | today =>
      simp only [bounds?, operand?]
      rw [Period.map_range_ofDate_day]
      cases today.addDays 1 <;> rfl
    | tomorrow =>
      simp only [bounds?, operand?]
      cases today.addDays 1 with
      | error e => rfl
      | ok d =>
        rw [toOption_ok, Option.bind_eq_bind, Option.bind_some, Option.bind_eq_bind,
          Option.bind_some, Period.map_range_ofDate_day]
        cases d.addDays 1 <;> rfl
    | _ => rfl
  | _ => rfl

/-- A filter without dots is no range. -/
theorem atom?_ne_range (r : DateRange) : atom? quoted text today weekStart ≠ some (range r) := by
  unfold atom?
  split
  · simp
  · intro h
    obtain ⟨phrase, -, h⟩ := Option.bind_eq_some_iff.1 h
    split at h
    · obtain ⟨d, -, h⟩ := Option.bind_eq_some_iff.1 h
      obtain ⟨p, -, h⟩ := Option.bind_eq_some_iff.1 h
      cases h
    · cases h

/-- A text without `..` is no range. -/
theorem readLower?_ne_range (hs : '"' ∉ s) (hdots : ¬"..".toList <:+: s) (r : DateRange) :
    readLower? (requote quoted s) today weekStart ≠ some (range r) := by
  have hcut : cut? "..".toList (squeeze s) = none :=
    cut?_eq_none_iff.2 (mt (infix_iff_of_words_eq (words_squeeze s) (by decide) (by decide)).1 hdots)
  rw [readLower?_requote hs]
  cases hop : operator? (squeeze s) with
  | some p =>
    rw [readText?_of_operator? hop]
    cases (readLower? (requote quoted p.2) today weekStart).bind (operand? today) <;> simp
  | none =>
    rw [readText?_of_whole hop hcut]
    intro h
    split at h
    · cases h
    · rw [Option.or_eq_some_iff] at h
      rcases h with hbucket | ⟨-, hatom⟩
      · obtain ⟨b, -, hb⟩ := Option.map_eq_some_iff.1 hbucket
        cases hb
      · exact atom?_ne_range r hatom

/-! ## What stands for a period -/

/-- The filters that stand for a period: a day, a month or a year, today and tomorrow. -/
def NamesPeriod : DateFilter → Prop
  | period _ | bucket .today | bucket .tomorrow => True
  | _ => False

/-- What stands for a period is written without operators and dots. -/
theorem isPlain_of_readText? {f : DateFilter}
    (h : readText? quoted text today weekStart = some f) (hf : f.NamesPeriod) : IsPlain text := by
  cases hop : operator? text with
  | some p =>
    rw [readText?_of_operator? hop] at h
    obtain ⟨p, -, rfl⟩ := Option.map_eq_some_iff.1 h
    exact hf.elim
  | none =>
    cases hcut : cut? "..".toList text with
    | some p =>
      rw [readText?_of_cut? hop hcut] at h
      obtain ⟨start, -, h⟩ := Option.bind_eq_some_iff.1 h
      obtain ⟨stop, -, rfl⟩ := Option.map_eq_some_iff.1 h
      exact hf.elim
    | none =>
      intro c hc
      by_contra hplain
      rw [readText?_eq_none hop hcut hc hplain] at h
      cases h

end DateFilter

end TaskQuery
