import TaskQuery.Calendar.Date
import TaskQuery.Text.Word

/-!
# ISO 8601 dates

Reading a date from its calendar form `YYYY-MM-DD` or `YYYYMMDD`, or from its week form
`YYYY-Www-D`, `YYYYWwwD`, `YYYY-Www` or `YYYYWww`, in ASCII digits.  The size of the text in
UTF-8 decides first: only 7, 8 and 10 bytes are read, and in the compact forms of 10 bytes
whatever follows the day is passed over.
-/

namespace TaskQuery.Date

/-- So many ASCII digits as a number, and the text after them. -/
def isoDigits? : (count : Nat) → (sofar : Nat) → List Char → Option (Nat × List Char)
  | 0, n, cs => some (n, cs)
  | count + 1, n, c :: cs =>
    if Text.isAsciiDigit c then isoDigits? count (10 * n + (c.toNat - '0'.toNat)) cs else none
  | _ + 1, _, [] => none

/-- The ordinal of the Monday of a year's first week, the week of its first Thursday. -/
def firstMonday (year : Nat) : Int :=
  let first := daysBeforeYear year + 1
  let weekday := (first + 6) % 7
  (first : Int) - weekday + (if weekday > 3 then 7 else 0)

/-- Whether a year has 53 weeks: it starts on a Thursday, or is a leap year that starts on a
Wednesday. -/
def hasWeek53 (year : Nat) : Bool :=
  let weekday := (daysBeforeYear year + 7) % 7
  weekday == 3 || (weekday == 2 && isLeapYear year)

/-- The day of a week of a year; Monday is day 1. -/
def ofWeek? (year week day : Nat) : Option Date :=
  if 1 ≤ year ∧ 1 ≤ week ∧ (week ≤ 52 ∨ (week = 53 ∧ hasWeek53 year)) ∧ 1 ≤ day ∧ day ≤ 7 then
    ofOrdinal? (firstMonday year + (week - 1) * 7 + (day - 1))
  else none

/-- The week and the day of a week date, after the `W`. -/
def isoWeek? (year : Nat) (dashed : Bool) (cs : List Char) : Option Date := do
  let (week, rest) ← isoDigits? 2 0 cs
  match dashed, rest with
  | _, [] => ofWeek? year week 1
  | true, '-' :: rest => do
    let (day, _) ← isoDigits? 1 0 rest
    ofWeek? year week day
  | true, _ => none
  | false, rest => do
    let (day, _) ← isoDigits? 1 0 rest
    ofWeek? year week day

/-- The month and the day of a calendar date, after the year. -/
def isoMonth? (year : Nat) (dashed : Bool) (cs : List Char) : Option Date := do
  let (month, rest) ← isoDigits? 2 0 cs
  let rest ← if dashed then (match rest with | '-' :: r => some r | _ => none) else some rest
  let (day, _) ← isoDigits? 2 0 rest
  ofParts? year month day

/-- Read an ISO date. -/
def ofIso? (s : List Char) : Option Date := do
  let size := (String.ofList s).utf8ByteSize
  if size = 7 ∨ size = 8 ∨ size = 10 then
    let (year, rest) ← isoDigits? 4 0 s
    let (dashed, rest) := match rest with
      | '-' :: r => (true, r)
      | r => (false, r)
    match rest with
    | 'W' :: r => isoWeek? year dashed r
    | r => isoMonth? year dashed r
  else none

end TaskQuery.Date
