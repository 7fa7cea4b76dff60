import TaskQuery.DateFilter.Reader
import TaskQuery.Proofs.Text.Squeeze

/-!
# The characters of date filters

Buckets, dates and phrases are written with letters, digits, blanks and dashes.  Quotes, operators
and dots stand around them.

* `Bucket.isPlain_of_ofText?`, `Period.isPlain_of_ofDigits?`, `Phrase.isPlain_of_ofWords?`: what
  is read as one of these is plain, word by word and digit by digit.
* `Phrase.ofWords?_eq_none_of_ofDigits?`: no text is both a date and a phrase.
* `DateFilter.atom?_eq_none_of_mem`: so a text that is not plain is read as none of them.
-/

namespace TaskQuery

namespace Text

variable {s : List Char}

/-- A blank, a letter of ASCII, a digit of any script or a dash. -/
def IsPlainChar (c : Char) : Prop := isBlank c = true ∨ c.isAlpha = true ∨ isDigit c = true ∨ c = '-'

/-- Whether a character may stand in a filter can be checked. -/
instance (c : Char) : Decidable (IsPlainChar c) := inferInstanceAs (Decidable (_ ∨ _))

/-- All characters of the text are plain. -/
def IsPlain (s : List Char) : Prop := ∀ c ∈ s, IsPlainChar c

/-- Whether all characters may stand in a filter can be checked. -/
instance (s : List Char) : Decidable (IsPlain s) := List.decidableBAll _ s

/-- A text that is compared with a name is plain when the name is. -/
theorem isPlain_of_ofList {name : String} (h : String.ofList s = name)
    (hname : IsPlain name.toList) : IsPlain s := by
  rw [← h, String.toList_ofList] at hname
  exact hname

/-- Digits may stand in a filter. -/
theorem isPlain_of_digits (h : s.all isDigit = true) : IsPlain s := by
  intro c hc
  exact .inr (.inr (.inl (List.all_eq_true.1 h c hc)))

/-- What is read as digits is digits. -/
theorem all_isDigit_of_readDigits? {n m : Nat} (h : readDigits? n s = some m) :
    s.all isDigit = true := by
  induction s generalizing n with
  | nil => rfl
  | cons c s ih =>
    rw [readDigits?] at h
    split at h
    · next d hd =>
      rw [List.all_cons, isDigit, hd, ih h]
      rfl
    · cases h

/-- A number may stand in a filter. -/
theorem isPlain_of_wholeNumber? {n : Nat} (h : wholeNumber? s = some n) : IsPlain s := by
  unfold wholeNumber? at h
  split at h
  · cases h
  · exact isPlain_of_digits (all_isDigit_of_readDigits? h)

/-- A digit separates no words. -/
theorem not_isBlank_of_isDigit {c : Char} (h : isDigit c = true) : isBlank c = false := by
  -- no block of ten digits meets one of the ranges of blanks
  have hblocks : ∀ z ∈ digitZeros, 0x20 < z ∧ z + 9 < 0x85 ∨ 0xa0 < z ∧ z + 9 < 0x1680 ∨
      0x1680 < z ∧ z + 9 < 0x2000 ∨ 0x3000 < z := by
    decide
  rw [isDigit, digitValue?, Option.isSome_map, List.find?_isSome] at h
  obtain ⟨z, hz, hrange⟩ := h
  have hblock := hblocks z hz
  rw [Bool.and_eq_true, decide_eq_true_iff, decide_eq_true_iff] at hrange
  simp only [isBlank, Bool.or_eq_false_iff, Bool.and_eq_false_iff, decide_eq_false_iff_not,
    beq_eq_false_iff_ne]
  omega

/-- A text is plain when its words are. -/
theorem isPlain_of_words (h : ∀ w ∈ words s, IsPlain w) : IsPlain s := by
  intro c hc
  cases hb : isBlank c with
  | true => exact .inl hb
  | false =>
    obtain ⟨w, hw, hcw⟩ := (mem_iff_exists_words hb s).1 hc
    exact h w hw c hcw

end Text

open Text

/-! ## Buckets -/

namespace Bucket

variable {s : List Char}

/-- The names of buckets have plain characters. -/
theorem isPlain_of_ofName? {b : Bucket} (h : ofName? (String.ofList s) = some b) : IsPlain s := by
  unfold ofName? at h
  split at h
  case h_9 => cases h
  all_goals
    next hname => exact isPlain_of_ofList hname (by decide)

/-- A line feed at the end is passed over, and it is plain itself. -/
theorem isPlain_of_phraseWords {w : List Char} {ws : List (List Char)}
    (h : phraseWords s = w :: ws) (hplain : ∀ v ∈ w :: ws, IsPlain v) : IsPlain s := by
  have hbody : IsPlain (if s.getLast? = some '\n' then s.dropLast else s) := by
    unfold phraseWords at h
    dsimp only at h
    generalize (if s.getLast? = some '\n' then s.dropLast else s) = body at h
    by_cases hends : (body.head?.any isBlank || body.getLast?.any isBlank) = true
    · simp [hends] at h
    · rw [if_neg hends] at h
      exact isPlain_of_words (h ▸ hplain)
  split at hbody
  · next hline =>
    rw [← List.dropLast_append_getLast? '\n' hline]
    exact List.forall_mem_append.2 ⟨hbody, List.forall_mem_singleton.2 (by decide)⟩
  · exact hbody

/-- A bucket of so many days has plain characters. -/
theorem isPlain_of_nextDaysDigits? {digits : List Char} (h : nextDaysDigits? s = some digits) :
    IsPlain s := by
  unfold nextDaysDigits? at h
  split at h
  · next next number days hwords =>
    split at h
    · next hcond =>
      simp only [Bool.and_eq_true, Bool.or_eq_true, decide_eq_true_eq] at hcond
      obtain ⟨⟨rfl, hnumber⟩, hdays⟩ := hcond
      refine isPlain_of_phraseWords hwords ?_
      simp only [List.forall_mem_cons, List.not_mem_nil, false_implies, implies_true, and_true]
      refine ⟨by decide, isPlain_of_digits hnumber, ?_⟩
      rcases hdays with rfl | rfl
      · decide
      · decide
    · cases h
  · cases h

/-- What is read as a bucket has plain characters. -/
theorem isPlain_of_ofText? {b : Bucket} (h : ofText? s = some b) : IsPlain s := by
  unfold ofText? ofText at h
  split at h
  · next hname => exact isPlain_of_ofName? hname
  · cases h
  · next hdigits => exact isPlain_of_nextDaysDigits? hdigits

end Bucket

/-- A text with any other character is no bucket. -/
theorem Bucket.ofText?_eq_none_of_mem {s : List Char} {c : Char} (hc : c ∈ s)
    (hplain : ¬IsPlainChar c) : ofText? s = none := by
  rw [Option.eq_none_iff_forall_ne_some]
  exact fun b hb => hplain (isPlain_of_ofText? hb c hc)

/-! ## Days, months and years -/

namespace Period

/-- What is read as a number of so many digits is digits. -/
theorem all_isDigit_of_fixedDigits? {count n : Nat} {s : List Char}
    (h : fixedDigits? count s = some n) : s.all isDigit = true := by
  unfold fixedDigits? at h
  split at h
  · exact all_isDigit_of_readDigits? h
  · cases h

/-- A day, month or year is written with digits and dashes. -/
theorem isDigit_or_dash_of_ofDigits? {s : List Char} {p : Period} (h : ofDigits? s = some p) :
    ∀ c ∈ s, isDigit c = true ∨ c = '-' := by
  have hparts : ∀ w ∈ splitOn ['-'] s, w.all isDigit = true := by
    unfold ofDigits? at h
    split at h
    · next y m d hsplit =>
      simp only [Option.bind_eq_bind, Option.bind_eq_some_iff] at h
      obtain ⟨yn, hy, mn, hm, dn, hd, -⟩ := h
      rw [hsplit]
      simp only [List.forall_mem_cons, List.not_mem_nil, false_implies, implies_true, and_true]
      exact ⟨all_isDigit_of_fixedDigits? hy, all_isDigit_of_fixedDigits? hm,
        all_isDigit_of_fixedDigits? hd⟩
    · next y m hsplit =>
      simp only [Option.bind_eq_bind, Option.bind_eq_some_iff] at h
      obtain ⟨yn, hy, mn, hm, -⟩ := h
      rw [hsplit]
      simp only [List.forall_mem_cons, List.not_mem_nil, false_implies, implies_true, and_true]
      exact ⟨all_isDigit_of_fixedDigits? hy, all_isDigit_of_fixedDigits? hm⟩
    · next y hsplit =>
      simp only [Option.bind_eq_bind, Option.bind_eq_some_iff] at h
      obtain ⟨yn, hy, -⟩ := h
      rw [hsplit]
      exact List.forall_mem_singleton.2 (all_isDigit_of_fixedDigits? hy)
    · cases h
  intro c hc
  rcases mem_splitOn ['-'] hc with hdash | ⟨w, hw, hcw⟩
  · exact .inr (List.mem_singleton.1 hdash)
  · exact .inl (List.all_eq_true.1 (hparts w hw) c hcw)

/-- What is read as a date, a month or a year has plain characters. -/
theorem isPlain_of_ofDigits? {s : List Char} {p : Period} (h : ofDigits? s = some p) : IsPlain s :=
  fun c hc => .inr (.inr (isDigit_or_dash_of_ofDigits? h c hc))

end Period

/-! ## Phrases -/

namespace Phrase

/-- The names of units have plain characters. -/
theorem isPlain_of_unitDays? {unit : List Char} {n : Nat} (h : unitDays? unit = some n) :
    IsPlain unit := by
  unfold unitDays? at h
  split at h
  case h_5 => cases h
  all_goals
    next hname => exact isPlain_of_ofList hname (by decide)

/-- An amount of time has plain characters. -/
theorem isPlain_of_amount? {digits unit : List Char} {n : Nat} (h : amount? digits unit = some n) :
    IsPlain digits ∧ IsPlain unit := by
  simp only [amount?, Option.bind_eq_bind, Option.bind_eq_some_iff] at h
  obtain ⟨days, hunit, count, hcount, -⟩ := h
  exact ⟨isPlain_of_wholeNumber? hcount, isPlain_of_unitDays? hunit⟩

/-- The names of occurrences have plain characters. -/
theorem isPlain_of_occurrence? {w : List Char} {o : Occurrence} (h : occurrence? w = some o) :
    IsPlain w := by
  unfold occurrence? at h
  split at h
  case h_4 => cases h
  all_goals
    next hname => exact isPlain_of_ofList hname (by decide)

/-- The names of edges and of what they are edges of have plain characters. -/
theorem isPlain_of_edgeOf? {edge unit : List Char} {p : Phrase} (h : edgeOf? edge unit = some p) :
    IsPlain edge ∧ IsPlain unit := by
  simp only [edgeOf?, Option.bind_eq_bind, Option.bind_eq_some_iff] at h
  obtain ⟨e, hedge, hunit⟩ := h
  constructor
  · unfold edge? at hedge
    split at hedge
    case h_4 => cases hedge
    all_goals
      next hname => exact isPlain_of_ofList hname (by decide)
  · split at hunit
    case h_3 => cases hunit
    all_goals
      next hname => exact isPlain_of_ofList hname (by decide)

/-- The names of weekdays have plain characters. -/
theorem isPlain_of_weekday {day : List Char} {n : Nat}
    (h : weekdayNames.idxOf? (String.ofList day) = some n) : IsPlain day := by
  have hmem : String.ofList day ∈ weekdayNames := by
    by_contra hnot
    rw [List.idxOf?_eq_none_iff.2 hnot] at h
    cases h
  have hnames : ∀ name ∈ weekdayNames, IsPlain name.toList := by decide
  exact isPlain_of_ofList rfl (hnames _ hmem)

/-- The words of a phrase have plain characters. -/
theorem isPlain_of_ofWords? {ws : List (List Char)} {p : Phrase} (h : ofWords? ws = some p) :
    ∀ w ∈ ws, IsPlain w := by
  unfold ofWords? at h
  split at h
  · next w =>
    refine List.forall_mem_singleton.2 ?_
    split at h
    case h_4 => cases h
    all_goals
      next hname => exact isPlain_of_ofList hname (by decide)
  · next which day =>
    simp only [Option.bind_eq_bind, Option.bind_eq_some_iff] at h
    obtain ⟨o, ho, n, hn, -⟩ := h
    exact List.forall_mem_cons.2 ⟨isPlain_of_occurrence? ho,
      List.forall_mem_singleton.2 (isPlain_of_weekday hn)⟩
  · next a b c =>
    simp only [List.forall_mem_cons, List.not_mem_nil, false_implies, implies_true, and_true]
    split at h
    · next hin =>
      obtain ⟨n, hn, -⟩ := Option.map_eq_some_iff.1 h
      obtain ⟨hb, hc⟩ := isPlain_of_amount? hn
      exact ⟨by rw [hin]; decide, hb, hc⟩
    · split at h
      · next hago =>
        simp only [Option.map_eq_some_iff, Option.bind_eq_bind, Option.bind_eq_some_iff] at h
        obtain ⟨-, ⟨n, hn, -⟩, -⟩ := h
        obtain ⟨ha, hb⟩ := isPlain_of_amount? hn
        exact ⟨ha, hb, by rw [hago]; decide⟩
      · split at h
        · next hof =>
          obtain ⟨ha, hc⟩ := isPlain_of_edgeOf? h
          exact ⟨ha, by rw [hof]; decide, hc⟩
        · cases h
  · next edge of the unit =>
    simp only [List.forall_mem_cons, List.not_mem_nil, false_implies, implies_true, and_true]
    split at h
    · next hcond =>
      simp only [Bool.and_eq_true, decide_eq_true_eq] at hcond
      obtain ⟨rfl, rfl⟩ := hcond
      obtain ⟨hedge, hunit⟩ := isPlain_of_edgeOf? h
      exact ⟨hedge, by decide, by decide, hunit⟩
    · cases h
  · cases h

/-- What is read as a day, month or year is no phrase. -/
theorem ofWords?_eq_none_of_ofDigits? {s : List Char} {p : Period}
    (h : Period.ofDigits? s = some p) : ofWords? (words s) = none := by
  have hblank : NoBlank s := by
    intro c hc
    rcases Period.isDigit_or_dash_of_ofDigits? h c hc with hdigit | rfl
    · exact not_isBlank_of_isDigit hdigit
    · decide
  have hne : ∀ name, Period.ofDigits? name.toList = none → String.ofList s ≠ name := by
    rintro name hname rfl
    rw [String.toList_ofList, h] at hname
    cases hname
  have hnil : s ≠ [] := by
    rintro rfl
    exact hne "" (by decide +kernel) rfl
  rw [words_of_noBlank hblank hnil, ofWords?]
  split
  · next hname => exact absurd hname (hne _ (by decide +kernel))
  · next hname => exact absurd hname (hne _ (by decide +kernel))
  · next hname => exact absurd hname (hne _ (by decide +kernel))
  · rfl

end Phrase

/-! ## Filters -/

namespace DateFilter

variable {s : List Char} {c : Char} {today : Date} {weekStart : WeekStart}

/-- A text with any other character is not the word `none`. -/
theorem ne_none_of_mem (hc : c ∈ s) (hplain : ¬IsPlainChar c) : s ≠ "none".toList := by
  have hname : IsPlain "none".toList := by decide
  rintro rfl
  exact hplain (hname c hc)

/-- What is read as a filter without dots and operators has plain characters. -/
theorem isPlain_of_atom? {quoted : Bool} {f : DateFilter}
    (h : atom? quoted s today weekStart = some f) : IsPlain s := by
  unfold atom? at h
  split at h
  · next hdigits => exact Period.isPlain_of_ofDigits? hdigits
  · obtain ⟨phrase, hphrase, -⟩ := Option.bind_eq_some_iff.1 h
    exact isPlain_of_words (Phrase.isPlain_of_ofWords? hphrase)

/-- A text with any other character is no such filter. -/
theorem atom?_eq_none_of_mem {quoted : Bool} (hc : c ∈ s) (hplain : ¬IsPlainChar c) :
    atom? quoted s today weekStart = none := by
  rw [Option.eq_none_iff_forall_ne_some]
  exact fun f hf => hplain (isPlain_of_atom? hf c hc)

/-- The characters of quotes, operators and ranges. -/
def IsMark (c : Char) : Prop := c ∈ "\"<>=.".toList

/-- Whether a character is a mark of an operator can be checked. -/
instance (c : Char) : Decidable (IsMark c) := inferInstanceAs (Decidable (_ ∈ _))

/-- Operators are made of marks. -/
theorem isMark_of_mem_symbol {cmp : Comparison} (h : c ∈ cmp.symbol.toList) : IsMark c := by
  have hsub : cmp.symbol.toList ⊆ "\"<>=.".toList := by cases cmp <;> simp [Comparison.symbol]
  exact hsub h

end DateFilter

end TaskQuery
