import TaskQuery.DateFilter.Phrase

/-!
# Reading date filters

The text after a date field, in any letter case and spacing.  In this order it may be: `none`, a
bucket, a comparison with a date, a range written with `..`, an exact day, month or year, or a
phrase that names a day.  Most phrases count only inside double quotes.  A quoted comparison
reads its operand as quoted; the ends of a range are read as they stand.
-/

namespace TaskQuery

namespace Period

/-- Exactly so many digits as a number. -/
def fixedDigits? (count : Nat) (s : List Char) : Option Nat :=
  if s.length = count then Text.readDigits? 0 s else none

/-- The period written `YYYY-MM-DD`, `YYYY-MM` or `YYYY`. -/
def ofDigits? (s : List Char) : Option Period :=
  match Text.splitOn ['-'] s with
  | [y, m, d] => do
    let date ← Date.ofParts? (← fixedDigits? 4 y) (← fixedDigits? 2 m) (← fixedDigits? 2 d)
    (ofDate .day date).toOption
  | [y, m] => do
    let date ← Date.ofParts? (← fixedDigits? 4 y) (← fixedDigits? 2 m) 1
    (ofDate .month date).toOption
  | [y] => do
    let date ← Date.ofParts? (← fixedDigits? 4 y) 1 1
    (ofDate .year date).toOption
  | _ => none

end Period

namespace DateFilter

/-- The days from the start to the stop of a filter that can bound a range. -/
def bounds? (today : Date) : DateFilter → Option DateRange
  | period p => some p.range
  | range r => some r
  | bucket .today => do
    let stop ← (today.addDays 1).toOption
    return ⟨today, stop⟩
  | bucket .tomorrow => do
    let start ← (today.addDays 1).toOption
    let stop ← (start.addDays 1).toOption
    return ⟨start, stop⟩
  | _ => none

/-- The period that a filter gives a comparison to compare with. -/
def operand? (today : Date) : DateFilter → Option Period
  | period p => some p
  | bucket .today => (Period.ofDate .day today).toOption
  | bucket .tomorrow => do
    let d ← (today.addDays 1).toOption
    (Period.ofDate .day d).toOption
  | _ => none

/-- A comparison operator and what follows it. -/
def operator? : List Char → Option (Comparison × List Char)
  | '>' :: '=' :: s => some (.notBefore, s)
  | '<' :: '=' :: s => some (.notAfter, s)
  | '>' :: s => some (.after, s)
  | '<' :: s => some (.before, s)
  | _ => none

/-- An operator takes characters away. -/
theorem length_of_operator? {s rest : List Char} {c : Comparison}
    (h : operator? s = some (c, rest)) : rest.length < s.length := by
  unfold operator? at h
  split at h
  all_goals
    simp only [Option.some.injEq, Prod.mk.injEq, reduceCtorEq] at h
  all_goals
    simp only [← h.2, List.length_cons]
    omega

/-- The double quotes around a text, or their absence, and the text inside. -/
def unquote (s : List Char) : Bool × List Char :=
  match Text.enclosed? s with
  | some inner => (true, Text.trim inner)
  | none => (false, s)

/-- A text with double quotes around it when `quoted`. -/
def requote (quoted : Bool) (s : List Char) : List Char := if quoted then '"' :: s ++ ['"'] else s

/-- Taking quotes off and putting them back makes no text longer. -/
theorem length_requote_unquote (s : List Char) :
    (requote (unquote s).1 (unquote s).2).length ≤ s.length := by
  unfold unquote
  split
  · next inner h =>
    have := Text.length_of_enclosed? h
    have := Text.length_trim_le inner
    simp [requote]
    omega
  · simp [requote]

/-- Quotes put around a text are two characters. -/
theorem length_requote (quoted : Bool) (s : List Char) :
    (requote quoted s).length = s.length + (if quoted then 2 else 0) := by
  cases quoted <;> simp [requote]

/-- The forms that are read without reading a part of them first. -/
def atom? (quoted : Bool) (s : List Char) (today : Date) (weekStart : WeekStart) :
    Option DateFilter :=
  match Period.ofDigits? s with
  | some p => some (period p)
  | none => do
    let phrase ← Phrase.ofWords? (Text.words s)
    if quoted || phrase.standsUnquoted then
      let d ← (phrase.day today weekStart).toOption
      let p ← (Period.ofDate .day d).toOption
      return period p
    else none

/-- Read a filter from its text in lower case. -/
def readLower? (s : List Char) (today : Date) (weekStart : WeekStart) : Option DateFilter :=
  match _hu : unquote (Text.squeeze s) with
  | (quoted, text) =>
    if text = "none".toList then some absent
    else
      match Bucket.ofText? text with
      | some b => some (bucket b)
      | none =>
        match _h : operator? text with
        | some (c, operand) => do
          let f ← readLower? (requote quoted operand) today weekStart
          let p ← f.operand? today
          return comparison c p
        | none =>
          match _h : Text.cut? "..".toList text with
          | some (left, right) => do
            let start ← (← readLower? left today weekStart).bounds? today
            let stop ← (← readLower? right today weekStart).bounds? today
            return range ⟨start.start, stop.stop⟩
          | none => atom? quoted text today weekStart
termination_by s.length
decreasing_by
  all_goals
    have hs := Text.length_squeeze_le s
    have hu := length_requote_unquote (Text.squeeze s)
    rw [_hu, length_requote] at hu
  · have := length_of_operator? _h
    rw [length_requote]
    simp only at hu
    omega
  all_goals
    have := congrArg List.length (Text.eq_append_of_cut? _h)
    simp only [List.length_append, show "..".toList.length = 2 from rfl] at this hu
    omega

/-- Read a filter from the text of a date field. -/
def read? (text : String) (today : Date) (weekStart : WeekStart) : Option DateFilter :=
  readLower? (Text.lower text.toList) today weekStart

end DateFilter

end TaskQuery
