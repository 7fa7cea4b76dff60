import TaskQuery.DateFilter.Reader
import TaskQuery.Match.Settings
import TaskQuery.Number.Reader
import TaskQuery.Query.Basic
import TaskQuery.Value.Printer

/-!
# Property filters

What `[key]` and `[key:value]` ask of the properties of a task's file.  A value may list
alternatives separated by `OR`, with parentheses around them or not, and a property that is a
list is matched element by element.  Truth values, numbers and dates are compared as such, all
else as text; a list or object inside the property may have none, which is an error.
-/

namespace TaskQuery

namespace Property

/-- The alternatives that a value lists, without the empty ones. -/
def alternatives (value : List Char) : List (List Char) :=
  let value := Text.trim value
  let inner :=
    if value.head? = some '(' && value.getLast? = some ')' then Text.trim value.tail.dropLast
    else value
  ((Text.splitOn " OR ".toList inner).map Text.trim).filter (· ≠ [])

/-- A comparison operator in front of an unsigned decimal number. -/
def numericComparison? (wanted : List Char) : Option (Comparison × Binary64) := do
  let (c, number) ← DateFilter.operator? wanted
  let whole := number.takeWhile Text.isDigit
  let plain ← match number.dropWhile Text.isDigit with
    | [] => some true
    | '.' :: fraction => some (!fraction.isEmpty && fraction.all Text.isDigit)
    | _ => none
  if whole.isEmpty || !plain then none
  else
    let x ← Binary64.ofText? number
    return (c, x)

/-- The place of a property that is a number among the numbers; none for one that is no number,
and `some none` for the floating-point value that is none. -/
def magnitude? : Value → Option (Option Binary64.Magnitude)
  | .int n => some (some (Binary64.wholeMagnitude n))
  | .float x => some x.magnitude?
  | _ => none

/-- Whether a number compares so with another; never with the value that is no number. -/
def compareNumbers (c : Comparison) (x y : Option Binary64.Magnitude) : Bool :=
  match x, y with
  | some x, some y =>
    match c with
    | .after => y.before x
    | .notBefore => !x.before y
    | .before => x.before y
    | .notAfter => !y.before x
  | _, _ => false

/-- The day that a property holds: a date, or a text that names a single day as of `clock`. -/
def day? (clock : Date) : Value → Option Date
  | .stamp s => some s.date
  | .text t =>
    match DateFilter.read? t clock .monday with
    | some (.period p) => if p.precision = .day then some p.date else none
    | _ => none
  | _ => none

end Property

namespace Scope

/-- Whether the day that a property holds satisfies a date filter. -/
def matchesPropertyDay (s : Scope) (wanted : List Char) (actual : Value) :
    Except MatchError Bool :=
  match Property.day? s.clock actual with
  | none => .ok false
  | some d =>
    match DateFilter.read? (String.ofList wanted) s.today s.settings.weekStart with
    | none | some .absent => .ok false
    | some f => MatchError.ofCalendar (f.accepts (some d) s.today s.settings.weekStart)

/-- Whether a text is the wanted one, or holds it when not exact. -/
def comparesText (s : Scope) (wanted text : List Char) (exact : Bool) : Bool :=
  if exact then s.fold text = s.fold wanted else Text.contains (s.fold wanted) (s.fold text)

/-- Whether the text of a property is the wanted one, or holds it when not exact. -/
def matchesPropertyText (s : Scope) (wanted : List Char) (actual : Value) (exact : Bool) :
    Except MatchError Bool := do
  let text ← MatchError.ofText (actual.toText s.settings.nesting)
  return s.comparesText wanted text exact

/-- Whether a single value of a property satisfies an alternative. -/
def matchesValue (s : Scope) (wanted : List Char) (actual : Value) (exact : Bool) :
    Except MatchError Bool :=
  let name := String.ofList (Text.lower wanted)
  if name = "null" then
    .ok (match actual with
      | .null => true
      | _ => false)
  else
    match actual with
    | .null => .ok false
    | .bool b => .ok (name = if b then "true" else "false")
    | actual =>
      match Property.numericComparison? wanted, Property.magnitude? actual with
      | some (c, x), some y => .ok (Property.compareNumbers c y x.magnitude?)
      | some _, none => .ok false
      | none, some y =>
        .ok (match Binary64.ofText? wanted with
          | some x => y.isSome && y = x.magnitude?
          | none => false)
      | none, none => do
        if ← s.matchesPropertyDay wanted actual then return true
        else s.matchesPropertyText wanted actual exact

/-- Whether some pair of an alternative and a value matches, alternatives first. -/
def anyPair (s : Scope) (exact : Bool) : List (List Char × Value) → Except MatchError Bool
  | [] => .ok false
  | (wanted, actual) :: pairs => do
    if ← s.matchesValue wanted actual exact then return true
    else anyPair s exact pairs

/-- Whether the properties satisfy `[text]`. -/
def matchesProperty (s : Scope) (text : String) (exact : Bool) : Except MatchError Bool :=
  match Entries.get? s.properties (Leaf.propertyKey text), Leaf.propertyValue? text with
  | none, _ => .ok false
  | some _, none => .ok true
  | some actual, some wanted =>
    let values := match actual with
      | .list vs => vs
      | v => [v]
    s.anyPair exact ((Property.alternatives wanted.toList).flatMap fun a => values.map fun v => (a, v))

end Scope

end TaskQuery
