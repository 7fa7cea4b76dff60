import TaskQuery.Number.Reader
import TaskQuery.Text.Reading
import TaskQuery.Value.Basic

/-!
# Reading JSON

A JSON text is one value with blanks around it.  Besides the standard's values the words `NaN`,
`Infinity` and `-Infinity` are numbers.  Of equal keys in an object the last one counts.  A whole
number has a greatest length, and there is room only for so many lists and objects inside one
another; more of either is a fault of its own.

A string may hold half of a surrogate pair, which is a code point but no character.  Keys are told
apart by their code points; where a text is kept, such a code point is shown as the replacement
character.
-/

namespace TaskQuery.Json

/-- Why a text is not read as JSON. -/
inductive Refusal where
  /-- The text does not follow the format. -/
  | malformed
  /-- A whole number has more digits than are read. -/
  | hugeNumber
  /-- Lists and objects are nested deeper than there is room for. -/
  | tooDeep
  deriving DecidableEq, Repr

/-- The blanks between the parts of a JSON text. -/
def isBlank (c : Char) : Bool := c = ' ' || c = '\t' || c = '\n' || c = '\r'

/-- Drop the blanks at the front. -/
def skip (s : List Char) : List Char := s.dropWhile isBlank

/-- Skipping makes no text longer. -/
theorem length_skip_le (s : List Char) : (skip s).length ≤ s.length :=
  (List.dropWhile_suffix _).length_le

/-- Behind what is skipped and one more character the text is shorter. -/
theorem length_of_skip_cons {s cs : List Char} {c : Char} (h : skip s = c :: cs) :
    cs.length + 1 ≤ s.length := by
  have hs := length_skip_le s
  rw [h] at hs
  exact hs

/-- Behind two characters, each with what is skipped before it, the text is shorter by two. -/
theorem length_of_skip_cons₂ {s cs ds : List Char} {c d : Char} (h : skip s = c :: cs)
    (hd : skip cs = d :: ds) : ds.length + 2 ≤ s.length := by
  have := length_of_skip_cons h
  have := length_of_skip_cons hd
  omega

/-- The character that a backslash and a letter stand for. -/
def escaped? : Char → Option Char
  | '"' => some '"'
  | '\\' => some '\\'
  | '/' => some '/'
  | 'b' => some '\x08'
  | 'f' => some '\x0c'
  | 'n' => some '\n'
  | 'r' => some '\r'
  | 't' => some '\t'
  | _ => none

/-- The code units of a string after its opening quote, and the rest after the closing one. -/
def units? : List Char → Option (List Nat × List Char)
  | [] => none
  | '"' :: cs => some ([], cs)
  | '\\' :: 'u' :: a :: b :: c :: d :: cs => do
    let unit ← Text.hexNumber? [a, b, c, d]
    let (more, rest) ← units? cs
    return (unit :: more, rest)
  | '\\' :: c :: cs => do
    let e ← escaped? c
    let (more, rest) ← units? cs
    return (e.toNat :: more, rest)
  | c :: cs =>
    if c.toNat < 0x20 || c = '\\' then none
    else (units? cs).map fun (more, rest) => (c.toNat :: more, rest)

/-- The code points of code units: a high surrogate with the low one after it is one code point; a
surrogate on its own stays one. -/
def codePoints : List Nat → List Nat
  | [] => []
  | [u] => [u]
  | u :: v :: us =>
    if 0xd800 ≤ u && u < 0xdc00 && 0xdc00 ≤ v && v < 0xe000 then
      (0x10000 + (u - 0xd800) * 0x400 + (v - 0xdc00)) :: codePoints us
    else u :: codePoints (v :: us)

/-- The character of a code point; that of a surrogate is the replacement character. -/
def character (n : Nat) : Char := if 0xd800 ≤ n && n < 0xe000 then '\ufffd' else Char.ofNat n

/-- The text that code points are shown as. -/
def shownText (points : List Nat) : String := String.ofList (points.map character)

/-- The entries of an object: names are the same when their code points are. -/
def entriesOf (pairs : List (List Nat × Value)) : Entries :=
  (Entries.ofPairs pairs).map fun (key, v) => (shownText key, v)

/-- The units of a string leave a shorter text. -/
theorem length_of_units? {s rest : List Char} {us : List Nat} (h : units? s = some (us, rest)) :
    rest.length < s.length := by
  fun_induction units? s generalizing us rest with
  | case1 => simp at h
  | case2 => simp_all
  | case3 a b c d cs ih =>
    simp only [Option.bind_eq_bind, Option.bind_eq_some_iff, Prod.exists] at h
    obtain ⟨_, -, m, r, hm, h⟩ := h
    have := ih hm
    simp_all
    omega
  | case4 c cs _ ih =>
    simp only [Option.bind_eq_bind, Option.bind_eq_some_iff, Prod.exists] at h
    obtain ⟨_, -, m, r, hm, h⟩ := h
    have := ih hm
    simp_all
    omega
  | case5 => simp at h
  | case6 c cs _ _ _ _ ih =>
    simp only [Option.map_eq_some_iff, Prod.mk.injEq, Prod.exists] at h
    obtain ⟨m, r, hm, -, rfl⟩ := h
    have := ih hm
    simp
    omega

/-- A string after its opening quote. -/
def string (cs : List Char) : Except Refusal (Reading String (cs.length + 1)) :=
  match h : units? cs with
  | some (us, rest) =>
    .ok ⟨shownText (codePoints us), rest, Nat.lt_succ_of_lt (length_of_units? h)⟩
  | none => .error .malformed

/-- The digits of a fraction, with the point in front of them; nothing without a digit. -/
def fractionPart (cs : List Char) : List Char :=
  match cs with
  | '.' :: ds => if (ds.takeWhile Char.isDigit).isEmpty then [] else '.' :: ds.takeWhile Char.isDigit
  | _ => []

/-- The exponent with its letter and sign; nothing without a digit. -/
def exponentPart (cs : List Char) : List Char :=
  match cs with
  | e :: rest =>
    if e = 'e' || e = 'E' then
      let sign := match rest with
        | '+' :: _ => ['+']
        | '-' :: _ => ['-']
        | _ => []
      let digits := (rest.drop sign.length).takeWhile Char.isDigit
      if digits.isEmpty then [] else e :: sign ++ digits
    else []
  | [] => []

/-- The whole digits at the front of a number: a zero on its own, or digits without one first. -/
def wholePart (cs : List Char) : List Char :=
  match cs with
  | '0' :: _ => ['0']
  | _ => cs.takeWhile Char.isDigit

/-- The unsigned number at the front of a text, and the characters it takes; no character when
there is no number. -/
def unsigned (negative : Bool) (cs : List Char) : Except Refusal (Value × Nat) :=
  let whole := wholePart cs
  let fraction := fractionPart (cs.drop whole.length)
  let exponent := exponentPart (cs.drop (whole.length + fraction.length))
  let digits := Binary64.digitsValue whole
  if whole.isEmpty then .error .malformed
  else if fraction.isEmpty && exponent.isEmpty then
    if whole.length > Text.maxNumberDigits then .error .hugeNumber
    else .ok (.int (if negative then -(digits : Int) else digits), whole.length)
  else
    match Binary64.unsigned? negative (whole ++ fraction ++ exponent) with
    | some x => .ok (.float x, whole.length + fraction.length + exponent.length)
    | none => .error .malformed

/-- A number that starts with `c`. -/
def number (c : Char) (cs : List Char) : Except Refusal (Reading Value (cs.length + 1)) :=
  if c = '-' then do
    let (v, taken) ← unsigned true cs
    return ⟨v, cs.drop taken, by simp only [List.length_drop]; omega⟩
  else do
    let (v, taken) ← unsigned false (c :: cs)
    return ⟨v, cs.drop (taken - 1), by simp only [List.length_drop]; omega⟩

/-- The named values, and their names. -/
def words : List (List Char × Value) :=
  [("null".toList, .null), ("true".toList, .bool true), ("false".toList, .bool false),
    ("NaN".toList, .float .nan), ("Infinity".toList, .float (.infinite false)),
    ("-Infinity".toList, .float (.infinite true))]

/-- A named value or a number that starts with `c`. -/
def scalar (c : Char) (cs : List Char) : Except Refusal (Reading Value (cs.length + 1)) :=
  match words.find? fun (w, _) => w.isPrefixOf (c :: cs) with
  | some (w, v) => .ok ⟨v, cs.drop (w.length - 1), by simp only [List.length_drop]; omega⟩
  | none => number c cs

/-- The next character, blanks skipped, which has to be `c`. -/
def expect (c : Char) (s : List Char) : Except Refusal (Reading Unit s.length) :=
  match h : skip s with
  | [] => .error .malformed
  | d :: rest => if c = d then .ok ⟨(), rest, length_of_skip_cons h⟩ else .error .malformed

mutual

/-- A value with at most `nesting` lists and objects inside one another, blanks in front of it
skipped. -/
def value (nesting : Nat) (s : List Char) : Except Refusal (Reading Value s.length) :=
  match h : skip s with
  | [] => .error .malformed
  | '"' :: cs => do
    let r ← string cs
    return r.as (.text r.value) (length_of_skip_cons h)
  | '[' :: cs =>
    match nesting with
    | 0 => .error .tooDeep
    | inner + 1 =>
      match hd : skip cs with
      | ']' :: rest => .ok ⟨.list [], rest, Nat.lt_of_succ_lt (length_of_skip_cons₂ h hd)⟩
      | _ => do
        let r ← elements inner cs
        return r.as (.list r.value) (Nat.le_of_succ_le (length_of_skip_cons h))
  | '\x7b' :: cs =>
    match nesting with
    | 0 => .error .tooDeep
    | inner + 1 =>
      match hd : skip cs with
      | '\x7d' :: rest => .ok ⟨.object [], rest, Nat.lt_of_succ_lt (length_of_skip_cons₂ h hd)⟩
      | _ => do
        let r ← members inner cs
        return r.as (.object (entriesOf r.value)) (Nat.le_of_succ_le (length_of_skip_cons h))
  | c :: cs => do
    let r ← scalar c cs
    return r.as r.value (length_of_skip_cons h)
termination_by (s.length, 1)
decreasing_by all_goals exact Prod.Lex.left _ _ (length_of_skip_cons h)

/-- The values of a list up to its closing bracket. -/
def elements (nesting : Nat) (s : List Char) :
    Except Refusal (Reading (List Value) s.length) := do
  let v ← value nesting s
  have := v.shorter
  match skip v.rest with
  | ',' :: _ => do
    let comma ← expect ',' v.rest
    have := comma.shorter
    let more ← elements nesting comma.rest
    return more.as (v.value :: more.value) (by omega)
  | _ => do
    let stop ← expect ']' v.rest
    return stop.as [v.value] (by omega)
termination_by (s.length, 2)

/-- The entries of an object up to its closing brace, with the code points of their names. -/
def members (nesting : Nat) (s : List Char) :
    Except Refusal (Reading (List (List Nat × Value)) s.length) := do
  let quote ← expect '"' s
  have := quote.shorter
  match h : units? quote.rest with
  | none => .error .malformed
  | some (us, rest) =>
    have := length_of_units? h
    let colon ← expect ':' rest
    have := colon.shorter
    let v ← value nesting colon.rest
    have := v.shorter
    let entry := (codePoints us, v.value)
    match skip v.rest with
    | ',' :: _ => do
      let comma ← expect ',' v.rest
      have := comma.shorter
      let more ← members nesting comma.rest
      return more.as (entry :: more.value) (by omega)
    | _ => do
      let stop ← expect '\x7d' v.rest
      return stop.as [entry] (by omega)
termination_by (s.length, 2)

end

/-- The value that a text holds, with at most `nesting` lists and objects inside one another. -/
def read (nesting : Nat) (s : List Char) : Except Refusal Value := do
  let v ← value nesting s
  if (skip v.rest).isEmpty then return v.value else .error .malformed

end TaskQuery.Json
