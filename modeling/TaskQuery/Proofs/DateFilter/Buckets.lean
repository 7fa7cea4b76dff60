import TaskQuery.Proofs.Calendar.Months
import TaskQuery.Proofs.Calendar.Weekdays
import TaskQuery.Proofs.DateFilter.IsoText

/-!
# The days of buckets

A bucket is a stretch of the calendar around the reference day.

* `Covers` says which days this are: days before the reference day and after it, the seven days
  from the beginning of a week on, and whole months.
* `contains_eq_decide`: a day is found in the bucket exactly if it is one of them, as long as the
  calendar has a year before the reference day and a year behind it.
* `ofText?_text`: a bucket is read back from the way in which it is written, if its number of days
  can be written at all.
-/

namespace TaskQuery

open Text

namespace Bucket

/-! ## The stretch of a bucket -/

/-- The day `d` lies in the stretch of the bucket around `today`, whose week begins on `first`. -/
def Covers (b : Bucket) (d today first : Date) : Prop :=
  match b with
  | overdue => d < today
  | due => d ≤ today
  | .today => d = today
  | tomorrow => d.ordinal = today.ordinal + 1
  | thisWeek => first.ordinal ≤ d.ordinal ∧ d.ordinal < first.ordinal + 7
  | nextWeek => first.ordinal + 7 ≤ d.ordinal ∧ d.ordinal < first.ordinal + 14
  | thisMonth => d.year = today.year ∧ d.month = today.month
  | nextMonth =>
    if today.month = 12 then d.year = today.year + 1 ∧ d.month = 1
    else d.year = today.year ∧ d.month = today.month + 1
  | nextDays count => today.ordinal ≤ d.ordinal ∧ d.ordinal ≤ today.ordinal + count

variable {b : Bucket} {d today first : Date} {w : WeekStart}

/-- Whether a day is covered can be checked, given the first day of the week. -/
instance : Decidable (b.Covers d today first) :=
  match b with
  | overdue => inferInstanceAs (Decidable (d < today))
  | due => inferInstanceAs (Decidable (d ≤ today))
  | .today => inferInstanceAs (Decidable (d = today))
  | tomorrow => inferInstanceAs (Decidable (_ = _))
  | thisWeek | nextWeek | thisMonth | nextDays _ => inferInstanceAs (Decidable (_ ∧ _))
  | nextMonth => inferInstanceAs (Decidable (if today.month = 12 then _ ∧ _ else _ ∧ _))

/-- A week later the week begins a week later. -/
theorem beginsWeek_nextWeek {next first' : Date} (hfirst : first.BeginsWeek today w)
    (hnext : next.ordinal = today.ordinal + 7) (hfirst' : first'.BeginsWeek next w) :
    first'.ordinal = first.ordinal + 7 := by
  have hpassed : next.daysIntoWeek w = today.daysIntoWeek w := by
    cases w with
    | monday =>
      show (next.ordinal + 6) % 7 = (today.ordinal + 6) % 7
      omega
    | sunday =>
      show ((next.ordinal + 6) % 7 + 1) % 7 = ((today.ordinal + 6) % 7 + 1) % 7
      omega
  have hthis := Date.beginsWeek_iff.1 hfirst
  have hlater := Date.beginsWeek_iff.1 hfirst'
  omega

/-- This week is the seven days from its first day on. -/
theorem contains_thisWeek (hafter : 365 < today.ordinal)
    (hbefore : today.ordinal + 365 ≤ Date.maxOrdinal) (hfirst : first.BeginsWeek today w) :
    thisWeek.contains d today w = .ok (decide (thisWeek.Covers d today first)) := by
  obtain ⟨week, hweek, hdays⟩ := Date.exists_week_contains (by omega) (by omega) hfirst
  rw [contains, hweek]
  exact congrArg Except.ok (hdays d)

/-- Next week is the seven days from a week after the first day on. -/
theorem contains_nextWeek (hafter : 365 < today.ordinal)
    (hbefore : today.ordinal + 365 ≤ Date.maxOrdinal) (hfirst : first.BeginsWeek today w) :
    nextWeek.contains d today w = .ok (decide (nextWeek.Covers d today first)) := by
  obtain ⟨next, hnext⟩ := (Date.exists_addDays_iff (d := today) (n := 7)).2 ⟨by omega, by omega⟩
  have hordinal := Date.addDays_eq_ok_iff.1 hnext
  obtain ⟨first', hfirst', -⟩ :=
    Date.existsUnique_beginsWeek (show 7 ≤ next.ordinal by omega) w
  have hlater := beginsWeek_nextWeek hfirst (by omega) hfirst'
  obtain ⟨week, hweek, hdays⟩ := Date.exists_week_contains (by omega) (by omega) hfirst'
  rw [contains, hnext, ok_bind, hweek, ok_bind]
  have hdays := hdays d
  rw [hlater] at hdays
  exact congrArg Except.ok hdays

/-- Next month is the month after that of the reference day. -/
theorem contains_nextMonth (hmonth : today.monthIndex + 12 < 12 * 9999) :
    nextMonth.contains d today w = .ok (decide (nextMonth.Covers d today first)) := by
  obtain ⟨next, hnext⟩ := (Date.exists_addMonths_iff (d := today) (n := 1)).2 ⟨by omega, by omega⟩
  obtain ⟨-, hindex⟩ := Date.addMonths_eq_ok_iff.1 hnext
  have hcovers : nextMonth.Covers d today first ↔ d.monthIndex = next.monthIndex := by
    obtain ⟨hy, -, hm, hm', -, -⟩ := d.isDate
    obtain ⟨hty, -, htm, htm', -, -⟩ := today.isDate
    rw [Date.monthIndex, Date.monthIndex] at hindex
    rw [Covers, Date.monthIndex, Date.monthIndex]
    -- December is the one month whose next month lies in another year
    split
    · omega
    · omega
  have hsame : d.sameMonth next = decide (nextMonth.Covers d today first) := by
    rw [Bool.eq_iff_iff, decide_eq_true_iff, hcovers, Date.sameMonth_iff]
  rw [contains, hnext]
  exact congrArg Except.ok hsame

/-- **A day is found in a bucket exactly if it lies in its stretch.** -/
theorem contains_eq_decide (hyear : 2 ≤ today.year) (hyear' : today.year ≤ 9998)
    (hfirst : first.BeginsWeek today w) (b : Bucket) (d : Date) :
    b.contains d today w = .ok (decide (b.Covers d today first)) := by
  obtain ⟨hafter, hbefore, hmonth⟩ := Date.ordinal_bounds hyear hyear'
  cases b with
  | overdue => rfl
  | due => rfl
  | today => rfl
  | tomorrow =>
    obtain ⟨next, hnext⟩ := (Date.exists_addDays_iff (d := today) (n := 1)).2 ⟨by omega, by omega⟩
    have hordinal := Date.addDays_eq_ok_iff.1 hnext
    have hday : d = next ↔ tomorrow.Covers d today first := by
      show d = next ↔ d.ordinal = today.ordinal + 1
      constructor
      · rintro rfl
        omega
      · intro h
        exact Date.ordinal_injective (by omega)
    rw [contains, hnext]
    exact congrArg Except.ok (decide_eq_decide.2 hday)
  | thisWeek => exact contains_thisWeek hafter hbefore hfirst
  | nextWeek => exact contains_nextWeek hafter hbefore hfirst
  | thisMonth =>
    have hsame : d.sameMonth today = decide (thisMonth.Covers d today first) := by
      rw [Bool.eq_iff_iff, decide_eq_true_iff, Date.sameMonth_iff]
      exact Date.monthIndex_eq_iff
    exact congrArg Except.ok hsame
  | nextMonth => exact contains_nextMonth hmonth
  | nextDays count =>
    have hwithin : d.withinDays today count = decide ((nextDays count).Covers d today first) := by
      rw [Date.withinDays, Bool.eq_iff_iff, Bool.and_eq_true, decide_eq_true_iff,
        decide_eq_true_iff, decide_eq_true_iff]
      show today.ordinal ≤ d.ordinal ∧ _ ↔ today.ordinal ≤ d.ordinal ∧ d.ordinal ≤ _
      omega
    exact congrArg Except.ok hwithin

/-! ## Buckets as they are written -/

/-- The name of a bucket has no digits. -/
theorem any_isDigit_of_ofName? {s : List Char} (h : ofName? (String.ofList s) = some b) :
    s.any Char.isDigit = false := by
  unfold ofName? at h
  split at h
  case h_9 => cases h
  all_goals
    next hname =>
      rw [← String.toList_ofList (l := s), hname]
      decide

/-- The three words in which a number of days is written. -/
theorem text_nextDays (count : Nat) : (nextDays count).text =
    "next".toList ++ ' ' :: (decimal count ++ ' ' :: "days".toList) := by
  have hfront : "next ".toList = "next".toList ++ [' '] := by decide
  have hback : " days".toList = ' ' :: "days".toList := by decide
  show "next ".toList ++ decimal count ++ " days".toList = _
  rw [hfront, hback, List.append_assoc, List.append_assoc, List.singleton_append]

/-- A bucket of so many days is written as three words. -/
theorem words_nextDays (count : Nat) : words (nextDays count).text =
    ["next".toList, decimal count, "days".toList] := by
  have hdigits : NoBlank (decimal count) := by
    intro c hc
    exact isBlank_of_isDigit (isDigit_of_mem_decimal hc)
  have hjoin : (nextDays count).text =
      join [' '] ["next".toList, decimal count, "days".toList] := by
    rw [text_nextDays]
    simp [join]
  rw [hjoin]
  apply words_join
  simp only [List.forall_mem_cons]
  exact ⟨⟨by decide, by decide⟩, ⟨hdigits, decimal_ne_nil count⟩, ⟨by decide, by decide⟩,
    fun v hv => absurd hv List.not_mem_nil⟩

/-- Its digits stand between `next` and `days`. -/
theorem nextDaysDigits?_text (count : Nat) :
    nextDaysDigits? (nextDays count).text = some (decimal count) := by
  have hlast : (nextDays count).text.getLast? = some 's' := by
    rw [text_nextDays, List.getLast?_append_cons, List.getLast?_cons, List.getLast?_append_cons]
    rfl
  have hhead : (nextDays count).text.head? = some 'n' := by
    rw [text_nextDays]
    rfl
  have hphrase : phraseWords (nextDays count).text = words (nextDays count).text := by
    unfold phraseWords
    simp [hlast, hhead, isBlank]
  have hdigits : (decimal count).all isDigit = true := by
    rw [List.all_eq_true]
    intro c hc
    rw [isDigit, digitValue?_of_isDigit (isDigit_of_mem_decimal hc)]
    rfl
  rw [nextDaysDigits?, hphrase, words_nextDays]
  simp [hdigits]

/-- **A bucket is read back from its text**, if its number of days has no more digits than are
read. -/
theorem ofText?_text (h : ∀ count, b = nextDays count → (decimal count).length ≤ maxNumberDigits) :
    ofText? b.text = some b := by
  cases b with
  | nextDays count =>
    have hname : ofName? (String.ofList (nextDays count).text) = none := by
      obtain ⟨c, s, hdecimal, hc, -⟩ := exists_decimal_eq_cons count
      rw [Option.eq_none_iff_forall_ne_some]
      intro b hb
      have hmem : c ∈ (nextDays count).text := by
        rw [text_nextDays, hdecimal]
        simp
      exact List.any_eq_false.1 (any_isDigit_of_ofName? hb) c hmem hc
    have hread : wholeNumber? (decimal count) = some count := by
      have hshort : (paddedDecimal 0 count).length ≤ maxNumberDigits := by
        simpa [paddedDecimal] using h count rfl
      simpa [paddedDecimal] using wholeNumber?_paddedDecimal hshort
    rw [ofText?, ofText, hname, nextDaysDigits?_text]
    dsimp only
    rw [hread]
    rfl
  | _ => rfl

/-- Buckets are written in lower case. -/
theorem isLower_text (b : Bucket) : IsLower b.text := by
  cases b with
  | nextDays count =>
    have hdigits : IsLower (decimal count) := by
      intro c hc
      exact isLower_of_isDigit (isDigit_of_mem_decimal hc)
    have hfront : IsLower "next".toList := by decide
    have hback : IsLower (' ' :: "days".toList) := by decide
    rw [text_nextDays]
    exact List.forall_mem_append.2 ⟨hfront, List.forall_mem_cons.2
      ⟨by decide, List.forall_mem_append.2 ⟨hdigits, hback⟩⟩⟩
  | _ => decide

/-- They are written with one space between their words. -/
theorem squeeze_text (b : Bucket) : squeeze b.text = b.text := by
  cases b with
  | nextDays count =>
    rw [squeeze, words_nextDays, text_nextDays, join_space, spaced]
    exact congrArg ("next".toList ++ ' ' :: decimal count ++ ' ' :: ·) (List.append_nil _)
  | _ => decide

end Bucket

end TaskQuery
