import TaskQuery.Proofs.DateFilter.IsoText
import TaskQuery.Proofs.DateFilter.NamedDays

/-!
# Days counted from the reference day

`in N days`, `in N weeks`, `N days ago` and `N weeks ago`, for a number `N` of any size.  Such a
number may have too many digits to be read, or it may be read and lead out of the calendar; in both
cases the phrase names no day.

* `AnswersDay`: an answer is the day with a number, or nothing when there is no such day.
* `answersDay_addDays`: counting days answers with the day that it leads to.  The last day of the
  calendar has a number, but nothing follows it and it makes up no period.
* `not_isNamable_of_large`: a number that is not read would lead out of the calendar.
* `resolve?_counted`: the four phrases, and that the two directions are inverse to each other.
-/

namespace TaskQuery

open Text

namespace Phrase

variable {today : Date} {w : WeekStart} {number : Int} {answer : Option Period} {unit : String}
  {days width n : Nat}

/-! ## Answers -/

/-- The first day of the calendar. -/
def firstNamed : Date := ⟨1, 1, 1, by decide⟩

/-- The last day of the calendar that is followed by another one. -/
def lastNamed : Date := ⟨9999, 12, 30, by decide⟩

/-- The number is that of a day from 0001-01-01 to 9999-12-30. -/
def IsNamable (number : Int) : Prop := firstNamed.ordinal ≤ number ∧ number ≤ lastNamed.ordinal

/-- Whether a number is that of such a day can be checked. -/
instance (number : Int) : Decidable (IsNamable number) := inferInstanceAs (Decidable (_ ∧ _))

/-- A day can be named if it has a place in the calendar before the last one. -/
theorem isNamable_iff : IsNamable number ↔ 1 ≤ number ∧ number < Date.maxOrdinal := by
  have hfirst : firstNamed.ordinal = 1 := by decide
  have hlast : lastNamed.ordinal + 1 = Date.maxOrdinal := by decide
  rw [IsNamable, hfirst]
  omega

/-- The answer is the day with the number, or nothing when that is not from 0001-01-01 to
9999-12-30. -/
structure AnswersDay (answer : Option Period) (number : Int) : Prop where
  /-- There is such a day. -/
  named : IsNamable number →
    ∃ p, answer = some p ∧ p.precision = .day ∧ (p.date.ordinal : Int) = number
  /-- There is none. -/
  unnamed : ¬IsNamable number → answer = none

/-- An answer is the day with the number, as a period of one day. -/
theorem AnswersDay.eq_of_eq_some (h : AnswersDay answer number) {p : Period}
    (hp : answer = some p) :
    IsNamable number ∧ p.precision = .day ∧ (p.date.ordinal : Int) = number := by
  have hnumber : IsNamable number := by
    apply Decidable.byContradiction
    intro hnot
    rw [h.unnamed hnot] at hp
    cases hp
  obtain ⟨q, hq, hprecision, hordinal⟩ := h.named hnumber
  obtain rfl := Option.some.inj (hq.symm.trans hp)
  exact ⟨hnumber, hprecision, hordinal⟩

/-- The last day of the calendar makes up no period. -/
theorem ofDate_day_eq_none {d : Date} (h : Date.maxOrdinal ≤ d.ordinal) :
    (Period.ofDate .day d).toOption = none := by
  cases hp : Period.ofDate .day d with
  | error e => rfl
  | ok p =>
    obtain ⟨hprecision, hdate⟩ := Period.eq_of_ofDate hp
    have hstop := p.stopOf_eq
    rw [hprecision, hdate] at hstop
    have hnext := Period.ordinal_of_stopOf_day hstop
    have hmax := p.stop.ordinal_le_maxOrdinal
    omega

/-- **Counting days answers with the day that it leads to.** -/
theorem answersDay_addDays (today : Date) (k : Int) :
    AnswersDay ((today.addDays k).toOption.bind fun d => (Period.ofDate .day d).toOption)
      (today.ordinal + k) where
  named := by
    intro h
    rw [isNamable_iff] at h
    obtain ⟨d, hd⟩ := (Date.exists_addDays_iff (d := today) (n := k)).2 ⟨h.1, by omega⟩
    have hordinal := Date.addDays_eq_ok_iff.1 hd
    obtain ⟨p, hp⟩ := Period.exists_ofDate_day (show d.ordinal < Date.maxOrdinal by omega)
    obtain ⟨hprecision, hdate⟩ := Period.eq_of_ofDate hp
    refine ⟨p, ?_, hprecision, ?_⟩
    · rw [hd, toOption_ok, Option.bind_some, hp]
      rfl
    · rw [hdate, hordinal]
  unnamed := by
    intro h
    rw [isNamable_iff] at h
    cases hd : today.addDays k with
    | error e => rfl
    | ok d =>
      have hordinal := Date.addDays_eq_ok_iff.1 hd
      have hpos := d.one_le_ordinal
      rw [toOption_ok, Option.bind_some]
      apply ofDate_day_eq_none
      omega

/-! ## Numbers of days -/

/-- The units in which days are counted, each with its number of days. -/
def unitLengths : List (String × Nat) := [("day", 1), ("days", 1), ("week", 7), ("weeks", 7)]

/-- A unit of the table has its length, which is not nothing. -/
theorem unitDays?_of_mem (hunit : (unit, days) ∈ unitLengths) :
    unitDays? unit.toList = some days ∧ 0 < days := by
  simp only [unitLengths, List.mem_cons, Prod.mk.injEq, List.not_mem_nil, or_false] at hunit
  rcases hunit with ⟨rfl, rfl⟩ | ⟨rfl, rfl⟩ | ⟨rfl, rfl⟩ | ⟨rfl, rfl⟩
  all_goals exact ⟨rfl, by decide⟩

/-- The calendar has fewer days than the longest number that is read can count. -/
theorem maxOrdinal_lt_pow : Date.maxOrdinal < 10 ^ maxNumberDigits :=
  calc Date.maxOrdinal < 10 ^ 7 := by decide
    _ ≤ 10 ^ maxNumberDigits := Nat.pow_le_pow_right (by decide) (by decide)

/-- A number with too many digits to be read leads out of the calendar. -/
theorem not_isNamable_of_large (hdays : 0 < days) (hn : maxNumberDigits < (decimal n).length)
    (today : Date) :
    ¬IsNamable (today.ordinal + (days * n : Nat)) ∧
      ¬IsNamable (today.ordinal + -(days * n : Nat)) := by
  have hlarge : Date.maxOrdinal < n :=
    Nat.lt_of_lt_of_le maxOrdinal_lt_pow (pow_le_of_length_decimal (by decide) hn)
  have hmul : n ≤ days * n := Nat.le_mul_of_pos_left n hdays
  have hpos := today.one_le_ordinal
  have hmax := today.ordinal_le_maxOrdinal
  rw [isNamable_iff, isNamable_iff]
  omega

/-- A number of units is read unless it has too many digits. -/
theorem amount?_paddedDecimal (hwidth : width ≤ maxNumberDigits)
    (hunit : (unit, days) ∈ unitLengths) (n : Nat) :
    amount? (paddedDecimal width n) unit.toList =
      if (decimal n).length ≤ maxNumberDigits then some (days * n) else none := by
  have hlength := length_paddedDecimal_le_iff (n := n) hwidth
  rw [amount?, (unitDays?_of_mem hunit).1]
  split
  · next hn =>
    rw [wholeNumber?_paddedDecimal (hlength.2 hn), Nat.mul_comm]
    rfl
  · next hn =>
    rw [wholeNumber?_of_length_gt (Nat.lt_of_not_le (mt hlength.1 hn))]
    rfl

/-! ## The phrases -/

/-- A number is not the word `in`. -/
theorem paddedDecimal_ne_in (width n : Nat) : paddedDecimal width n ≠ "in".toList := by
  intro h
  have hletter : 'i' ∈ paddedDecimal width n := by
    rw [h]
    decide
  exact absurd (isDigit_of_mem_paddedDecimal hletter) (by decide)

/-- **A phrase that counts days** answers with the day that it leads to, also when its number is not
read: `shift` is how far it counts. -/
theorem answersDay_counted (phrase : Nat → Phrase) (shift : Nat → Int)
    (hphrase : ∀ m, (phrase m).day today w = today.addDays (shift m))
    (hlarge : maxNumberDigits < (decimal n).length →
      ¬IsNamable (today.ordinal + shift (days * n))) :
    AnswersDay
      (((if (decimal n).length ≤ maxNumberDigits then some (days * n) else none).map phrase).bind
        fun p => (p.day today w).toOption.bind fun d => (Period.ofDate .day d).toOption)
      (today.ordinal + shift (days * n)) := by
  split
  · rw [Option.map_some, Option.bind_some, hphrase]
    exact answersDay_addDays today _
  · next hn =>
    have hnot := hlarge (Nat.lt_of_not_le hn)
    exact ⟨fun h => absurd h hnot, fun _ => rfl⟩

/-- The words of a phrase that counts forward. -/
def laterWords (digits : List Char) (unit : String) : List String :=
  ["in", String.ofList digits, unit]

/-- The words of a phrase that counts backward. -/
def earlierWords (digits : List Char) (unit : String) : List String :=
  [String.ofList digits, unit, "ago"]

/-- Words with one space between them. -/
def phraseText (ws : List String) : String := String.ofList (join [' '] (ws.map String.toList))

/-- With one space between the words both phrases are spelled. -/
theorem spells_phraseText (width n : Nat) (hunit : (unit, days) ∈ unitLengths) :
    Spells (phraseText (laterWords (paddedDecimal width n) unit))
        (laterWords (paddedDecimal width n) unit) ∧
      Spells (phraseText (earlierWords (paddedDecimal width n) unit))
        (earlierWords (paddedDecimal width n) unit) := by
  have hunits : ∀ u ∈ unitLengths, IsSmallWord u.1.toList := by decide
  have hsmall : IsSmallWord unit.toList := hunits _ hunit
  have hin : IsSmallWord "in".toList := by decide
  have hago : IsSmallWord "ago".toList := by decide
  have hnumber : IsSmallWord (String.ofList (paddedDecimal width n)).toList := by
    rw [String.toList_ofList]
    refine ⟨?_, List.append_ne_nil_of_right_ne_nil _ (decimal_ne_nil n), ?_⟩
    · intro c hc
      exact isBlank_of_isDigit (isDigit_of_mem_paddedDecimal hc)
    · intro c hc
      exact isLower_of_isDigit (isDigit_of_mem_paddedDecimal hc)
  constructor
  · apply spells_join
    simp only [laterWords, List.forall_mem_cons]
    exact ⟨hin, hnumber, hsmall, fun v hv => absurd hv List.not_mem_nil⟩
  · apply spells_join
    simp only [earlierWords, List.forall_mem_cons]
    exact ⟨hnumber, hsmall, hago, fun v hv => absurd hv List.not_mem_nil⟩

/-- The words for a later day are read as the number of days that they write. -/
theorem ofWords?_laterWords (digits : List Char) (unit : String) :
    ofWords? ((laterWords digits unit).map String.toList) =
      (amount? digits unit.toList).map inDays := by
  show (amount? (String.ofList digits).toList unit.toList).map inDays = _
  rw [String.toList_ofList]

/-- The words for an earlier day are read as the number of days that they write, counted
backward. -/
theorem ofWords?_earlierWords {digits : List Char} (h : digits ≠ "in".toList) (unit : String) :
    ofWords? ((earlierWords digits unit).map String.toList) =
      (amount? digits unit.toList).map fun m : Nat => shifted (-m) := by
  show ofWords? [(String.ofList digits).toList, unit.toList, "ago".toList] = _
  rw [String.toList_ofList, ofWords?, if_neg h, if_pos rfl]
  cases amount? digits unit.toList <;> rfl

variable {later earlier : String}

/-- Counting forward. -/
theorem answersDay_later (hwidth : width ≤ maxNumberDigits) (hunit : (unit, days) ∈ unitLengths)
    (hlater : Spells later (laterWords (paddedDecimal width n) unit)) (today : Date)
    (w : WeekStart) : AnswersDay (resolve? later today w) (today.ordinal + (days * n : Nat)) := by
  rw [resolve?_of_spells hlater, ofWords?_laterWords, amount?_paddedDecimal hwidth hunit]
  apply answersDay_counted inDays fun m => m
  · intro m
    rfl
  · intro hn
    exact (not_isNamable_of_large (unitDays?_of_mem hunit).2 hn today).1

/-- Counting backward. -/
theorem answersDay_earlier (hwidth : width ≤ maxNumberDigits) (hunit : (unit, days) ∈ unitLengths)
    (hearlier : Spells earlier (earlierWords (paddedDecimal width n) unit)) (today : Date)
    (w : WeekStart) : AnswersDay (resolve? earlier today w) (today.ordinal - (days * n : Nat)) := by
  rw [resolve?_of_spells hearlier, ofWords?_earlierWords (paddedDecimal_ne_in width n),
    amount?_paddedDecimal hwidth hunit, Int.sub_eq_add_neg]
  apply answersDay_counted (fun m : Nat => shifted (-m)) fun m => -m
  · intro m
    rfl
  · intro hn
    exact (not_isNamable_of_large (unitDays?_of_mem hunit).2 hn today).2

/-- **The days that are counted to.**  With a number in decimal, of any size and with zeros in front
up to the number of digits that are read, `in N days` names the day that is so many days after the
reference day and `N days ago` the day that is so many days before it, if this is a day from
0001-01-01 to 9999-12-30; otherwise they name none.  A week is seven days.  From the day that the
first phrase names, the second one leads back. -/
theorem resolve?_counted (hwidth : width ≤ maxNumberDigits) (hunit : (unit, days) ∈ unitLengths)
    (n : Nat) (hlater : Spells later (laterWords (paddedDecimal width n) unit))
    (hearlier : Spells earlier (earlierWords (paddedDecimal width n) unit))
    (today : Date) (w : WeekStart) :
    AnswersDay (resolve? later today w) (today.ordinal + (days * n : Nat)) ∧
      AnswersDay (resolve? earlier today w) (today.ordinal - (days * n : Nat)) ∧
      ∀ p, resolve? later today w = some p →
        ∃ q, resolve? earlier p.date w = some q ∧ q.precision = .day ∧ q.date = today := by
  have hforward := answersDay_later hwidth hunit hlater today w
  refine ⟨hforward, answersDay_earlier hwidth hunit hearlier today w, ?_⟩
  intro p hp
  obtain ⟨hnumber, -, hordinal⟩ := hforward.eq_of_eq_some hp
  have hback := answersDay_earlier hwidth hunit hearlier p.date w
  -- the reference day is not behind a day that is named, so that it is not the last one itself
  have htoday : IsNamable (p.date.ordinal - (days * n : Nat)) := by
    have hpos := today.one_le_ordinal
    rw [isNamable_iff] at hnumber ⊢
    omega
  obtain ⟨q, hq, hprecision, hqordinal⟩ := hback.named htoday
  exact ⟨q, hq, hprecision, Date.ordinal_injective (by omega)⟩

/-- Sixty days from the first of January 2024 lie behind the end of February, and back again; a
number of weeks with one digit more than are read leads to no day. -/
theorem resolve?_counted_sixty :
    let today : Date := ⟨2024, 1, 1, by decide⟩
    let march : Date := ⟨2024, 3, 1, by decide⟩
    let digits := paddedDecimal 0 (10 ^ maxNumberDigits)
    (∃ p, resolve? " in 060  DAYS" today .monday = some p ∧ p.date = march) ∧
      (∃ q, resolve? "060 days ago" march .monday = some q ∧ q.date = today) ∧
      resolve? (phraseText (laterWords digits "weeks")) today .monday = none := by
  intro today march digits
  have hlater : Spells " in 060  DAYS" (laterWords (paddedDecimal 3 60) "days") := by
    decide +kernel
  have hearlier : Spells "060 days ago" (earlierWords (paddedDecimal 3 60) "days") := by
    decide +kernel
  have hday : ("days", 1) ∈ unitLengths := by decide
  have hweek : ("weeks", 7) ∈ unitLengths := by decide
  obtain ⟨hforward, -, hback⟩ :=
    resolve?_counted (by decide) hday 60 hlater hearlier today .monday
  obtain ⟨p, hp, -, hordinal⟩ := hforward.named (by decide +kernel)
  have hmarch : p.date = march := by
    apply Date.ordinal_injective
    apply Int.ofNat_inj.1
    rw [hordinal]
    decide +kernel
  obtain ⟨q, hq, -, htoday⟩ := hback p hp
  rw [hmarch] at hq
  refine ⟨⟨p, hp, hmarch⟩, ⟨q, hq, htoday⟩, ?_⟩
  obtain ⟨hspells, hspells'⟩ := spells_phraseText 0 (10 ^ maxNumberDigits) hweek
  have hhuge := resolve?_counted (by decide) hweek (10 ^ maxNumberDigits) hspells hspells' today
    .monday
  apply hhuge.1.unnamed
  have hlarge := maxOrdinal_lt_pow
  rw [isNamable_iff]
  omega

end Phrase

end TaskQuery
