import TaskQuery.Proofs.DateFilter.Reading
import TaskQuery.Proofs.Text.Words

/-!
# A word that occurs in no date filter

Where alternatives are listed, `OR` stands between them.  It is not a word of date filters: a text
in which it stands on its own is not read as one, neither inside double quotes nor around
operators and dots.

* `Bucket.ofText?_of_orWord`, `Period.ofDigits?_of_orWord`, `Phrase.ofWords?_of_orWord`: it is in
  nothing that is read in one piece.
* `readLower?_eq_none_of_or`: so a text with that word is no date filter.
-/

namespace TaskQuery

open Text

/-- The word between alternatives, in lower case. -/
def orWord : List Char := "or".toList

/-! ## Parts of filters -/

namespace Phrase

/-- The word is no number. -/
theorem amount?_orWord_left (unit : List Char) : amount? orWord unit = none := by
  have hnumber : wholeNumber? orWord = none := by decide
  rw [amount?, hnumber]
  cases unitDays? unit <;> rfl

/-- The word is no unit. -/
theorem amount?_orWord_right (digits : List Char) : amount? digits orWord = none := rfl

/-- The word is no edge. -/
theorem edgeOf?_orWord_left (unit : List Char) : edgeOf? orWord unit = none := rfl

/-- The word has no edges. -/
theorem edgeOf?_orWord_right (edge : List Char) : edgeOf? edge orWord = none := by
  rw [edgeOf?]
  cases edge? edge <;> rfl

/-- The word stands in no phrase. -/
theorem ofWords?_of_orWord {ws : List (List Char)} (h : orWord ∈ ws) : ofWords? ws = none := by
  unfold ofWords?
  split
  · next w =>
    obtain rfl := List.mem_singleton.1 h
    rfl
  · next which day =>
    simp only [List.mem_cons, List.not_mem_nil, or_false] at h
    rcases h with rfl | rfl
    · rfl
    · cases occurrence? which <;> rfl
  · next a b c =>
    simp only [List.mem_cons, List.not_mem_nil, or_false] at h
    rcases h with rfl | rfl | rfl
    · rw [if_neg (by decide), amount?_orWord_left, edgeOf?_orWord_left]
      split
      · rfl
      · split <;> rfl
    · rw [amount?_orWord_left, amount?_orWord_right, if_neg (show orWord ≠ "of".toList by decide)]
      split
      · rfl
      · split <;> rfl
    · rw [amount?_orWord_right, if_neg (show orWord ≠ "ago".toList by decide),
        edgeOf?_orWord_right]
      split
      · rfl
      · split <;> rfl
  · next edge of the unit =>
    simp only [List.mem_cons, List.not_mem_nil, or_false] at h
    split
    · next hcond =>
      simp only [Bool.and_eq_true, decide_eq_true_eq] at hcond
      obtain ⟨rfl, rfl⟩ := hcond
      rcases h with rfl | h | h | rfl
      · exact edgeOf?_orWord_left unit
      · exact absurd h (by decide)
      · exact absurd h (by decide)
      · exact edgeOf?_orWord_right edge
    · rfl
  · rfl

end Phrase

namespace Bucket

variable {s : List Char}

/-- A line feed at the end is passed over. -/
theorem phraseWords_eq (s : List Char) : phraseWords s = [] ∨ phraseWords s = words s := by
  have hbody : words (if s.getLast? = some '\n' then s.dropLast else s) = words s := by
    split
    · next hline =>
      conv_rhs => rw [← List.dropLast_append_getLast? '\n' hline]
      rw [words_append_blank (by decide)]
      exact (List.append_nil _).symm
    · rfl
  unfold phraseWords
  dsimp only
  generalize (if s.getLast? = some '\n' then s.dropLast else s) = body at hbody ⊢
  split
  · exact .inl rfl
  · exact .inr hbody

/-- The word stands in no bucket. -/
theorem ofText?_of_orWord (h : orWord ∈ words s) : ofText? s = none := by
  have hname : ofName? (String.ofList s) = none := by
    unfold ofName?
    split
    case h_9 => rfl
    all_goals
      next hs =>
        rw [← String.toList_ofList (l := s), hs] at h
        exact absurd h (by decide)
  have hdays : nextDaysDigits? s = none := by
    rw [nextDaysDigits?]
    rcases phraseWords_eq s with hnil | hwords
    · rw [hnil]
    · rw [hwords]
      split
      · next next digits days heq =>
        rw [heq] at h
        simp only [List.mem_cons, List.not_mem_nil, or_false] at h
        rcases h with rfl | rfl | rfl
        · rfl
        · simp [orWord, show isDigit 'o' = false by decide]
        · simp [orWord]
      · rfl
  rw [ofText?, ofText, hname, hdays]
  rfl

end Bucket

namespace Period

/-- The word stands in no date. -/
theorem ofDigits?_of_orWord {s : List Char} (h : orWord ∈ words s) : ofDigits? s = none := by
  have hmem : 'o' ∈ s := (mem_iff_exists_words (by decide) s).2 ⟨orWord, h, by decide⟩
  have hletter : isDigit 'o' = false := by decide
  rw [Option.eq_none_iff_forall_ne_some]
  intro p hp
  rcases isDigit_or_dash_of_ofDigits? hp 'o' hmem with hdigit | hdash
  · rw [hletter] at hdigit
    cases hdigit
  · exact absurd hdash (by decide)

end Period

/-! ## Filters -/

namespace DateFilter

variable {today : Date} {weekStart : WeekStart} {s text operand left right : List Char}
  {quoted : Bool}

/-- Quotes around a text and blanks inside of them leave the word. -/
theorem orWord_mem_unquote (h : orWord ∈ words s) : orWord ∈ words (unquote (squeeze s)).2 := by
  have hs : orWord ∈ words (squeeze s) := by rwa [words_squeeze]
  unfold unquote
  split
  · next inner hinner =>
    rw [eq_of_enclosed? hinner] at hs
    rw [words_trim]
    have hquote : '"' ∉ orWord := by decide
    have hbehind := mem_words_append_cons (a := []) (by decide) (by decide) hquote hs
    have hinside := mem_words_append_cons (by decide) (by decide) hquote
      (hbehind.resolve_left (List.not_mem_nil))
    exact hinside.resolve_right (List.not_mem_nil)
  · exact hs

/-- So does putting quotes around it. -/
theorem orWord_mem_requote (h : orWord ∈ words s) (quoted : Bool) :
    orWord ∈ words (unquote (squeeze (requote quoted s))).2 := by
  cases quoted with
  | false => exact orWord_mem_unquote h
  | true =>
    rw [requote, if_pos rfl, List.cons_append, squeeze_quotes, unquote_quotes, words_trim,
      words_squash]
    exact h

/-- Behind an operator the word stays in the operand. -/
theorem orWord_mem_of_operator? {cmp : Comparison} (hop : operator? text = some (cmp, operand))
    (h : orWord ∈ words text) : orWord ∈ words operand := by
  have hskip : ∀ {c : Char} {t : List Char}, isBlank c = false → c ∉ orWord →
      orWord ∈ words (c :: t) → orWord ∈ words t := by
    intro c t hc hor hmem
    exact (mem_words_append_cons (a := []) hc (by decide) hor hmem).resolve_left List.not_mem_nil
  rw [eq_symbol_append_of_operator? hop] at h
  cases cmp
  · exact hskip (by decide) (by decide) h
  · exact hskip (by decide) (by decide) (hskip (by decide) (by decide) h)
  · exact hskip (by decide) (by decide) h
  · exact hskip (by decide) (by decide) (hskip (by decide) (by decide) h)

/-- At the dots of a range the word goes to one of the ends. -/
theorem orWord_mem_of_cut? (hcut : cut? "..".toList text = some (left, right))
    (h : orWord ∈ words text) : orWord ∈ words left ∨ orWord ∈ words right := by
  have hdot : '.' ∉ orWord := by decide
  rw [eq_append_of_cut? hcut, List.append_assoc] at h
  refine (mem_words_append_cons (by decide) (by decide) hdot h).imp_right fun hbehind => ?_
  exact (mem_words_append_cons (a := []) (by decide) (by decide) hdot hbehind).resolve_left
    List.not_mem_nil

/-- **A text with the word is no date filter**, also when the word stands inside of double quotes.
The induction follows the reader, which passes the word on to one of the parts. -/
theorem readLower?_eq_none_of_or (h : orWord ∈ words (unquote (squeeze s)).2) :
    readLower? s today weekStart = none := by
  induction s using readLower?.induct with
  | case1 s quoted hu =>
    rw [hu] at h
    have hname : orWord ∉ words "none".toList := by decide
    exact absurd h hname
  | case2 s quoted text hu _ b hb =>
    rw [hu] at h
    rw [Bucket.ofText?_of_orWord h] at hb
    cases hb
  | case3 s quoted text hu _ _ cmp operand hop ih =>
    rw [hu] at h
    rw [readLower?_eq, hu, readText?_of_operator? hop,
      ih (orWord_mem_requote (orWord_mem_of_operator? hop h) quoted)]
    rfl
  | case4 s quoted text hu _ _ hop left right hcut ihleft ihright =>
    rw [hu] at h
    rw [readLower?_eq, hu, readText?_of_cut? hop hcut]
    rcases orWord_mem_of_cut? hcut h with hleft | hright
    · rw [ihleft (orWord_mem_unquote hleft)]
      rfl
    · rw [ihright (orWord_mem_unquote hright)]
      simp
  | case5 s quoted text hu hname hbucket hop hcut =>
    rw [hu] at h
    rw [readLower?_eq, hu, readText?, if_neg hname, hbucket, hop]
    dsimp only
    rw [hcut]
    dsimp only
    rw [atom?, Period.ofDigits?_of_orWord h, Phrase.ofWords?_of_orWord h]
    rfl

end DateFilter

end TaskQuery
