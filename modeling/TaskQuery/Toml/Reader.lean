import TaskQuery.Toml.Document
import TaskQuery.Toml.Lexical

/-!
# Reading TOML

A TOML text is a row of statements, one a line: a key with its value, the opening of a table, or
the opening of a further table in a list of tables.  The statements build up a document; one that
goes against what was said before makes the text malformed.
-/

namespace TaskQuery.Toml

/-- A missing result is malformed. -/
def required {α : Type} : Option α → Except ReadFault α
  | some a => .ok a
  | none => .error .malformed

/-- Skipping blanks makes no text longer. -/
theorem length_skipBlank_le (s : List Char) : (skipBlank s).length ≤ s.length :=
  (List.dropWhile_suffix _).length_le

/-- Skipping lines makes no text longer. -/
theorem length_of_skipLines {inComment : Bool} {s rest : List Char}
    (h : skipLines inComment s = some rest) : rest.length ≤ s.length := by
  fun_induction skipLines inComment s <;> simp_all <;> omega

/-- Skipping a comment makes no text longer. -/
theorem length_of_skipComment {s rest : List Char} (h : skipComment s = some rest) :
    rest.length ≤ s.length := by
  unfold skipComment at h
  split at h
  · next cs =>
    split at h
    · simp at h
    · obtain rfl := by simpa using h
      have := (List.dropWhile_suffix (l := cs) (· ≠ '\n')).length_le
      simp at this ⊢
      omega
  · simp_all

/-- A text with the blanks, line feeds and comments at its front dropped. -/
def skipped (s : List Char) : Except ReadFault { r : List Char // r.length ≤ s.length } :=
  match h : skipLines false s with
  | some r => .ok ⟨r, length_of_skipLines h⟩
  | none => .error .malformed

mutual

/-- A value. -/
def value (s : List Char) : Except ReadFault (Reading Value s.length) :=
  match s with
  | '[' :: cs => do
    let vs ← elements cs
    return vs.as (.list vs.value) (Nat.le_refl _)
  | '\x7b' :: cs => do
    let entries ← inlineTable cs
    return entries.as (.object entries.value) (Nat.le_refl _)
  | c :: cs =>
    if c = '"' || c = '\'' then do
      let r ← Reading.ofOption (cs.length + 1) (string? (c :: cs))
      return r.as (.text (String.ofList r.value)) (Nat.le_refl _)
    else do
      let (v, rest) ← scalar (c :: cs)
      Reading.leaving _ v rest
  | [] => .error .malformed
termination_by 4 * s.length

/-- The elements of an array after its opening bracket or a comma, up to the closing bracket. -/
def elements (s : List Char) : Except ReadFault (Reading (List Value) (s.length + 1)) := do
  let ⟨start, _⟩ ← skipped s
  match start with
  | ']' :: rest => Reading.leaving _ [] rest
  | _ =>
    let v ← value start
    have := v.shorter
    let ⟨next, _⟩ ← skipped v.rest
    match _h : next with
    | ']' :: rest => Reading.leaving _ [v.value] rest
    | ',' :: rest =>
      have : rest.length < next.length := by simp [_h]
      let more ← elements rest
      return more.as (v.value :: more.value) (by omega)
    | _ => .error .malformed
termination_by 4 * s.length + 1

/-- A key with its value, blanks in front of it skipped. -/
def pair (s : List Char) : Except ReadFault (Reading (Path × Value) s.length) := do
  have hs := length_skipBlank_le s
  let k ← key (skipBlank s)
  have := k.shorter
  match _h : k.rest with
  | '=' :: rest =>
    have := length_skipBlank_le rest
    have : rest.length < k.rest.length := by simp [_h]
    let v ← value (skipBlank rest)
    return v.as (k.value, v.value) (by omega)
  | _ => .error .malformed
termination_by 4 * s.length + 1

/-- An inline table after its opening brace. -/
def inlineTable (s : List Char) : Except ReadFault (Reading Entries (s.length + 1)) :=
  match skipBlank s with
  | '\x7d' :: rest => Reading.leaving _ [] rest
  | _ => do
    let r ← inlinePairs ⟨[], []⟩ s
    return r.as r.value (Nat.le_refl _)
termination_by 4 * s.length + 3

/-- The pairs of an inline table up to the closing brace. -/
def inlinePairs (t : InlineTable) (s : List Char) :
    Except ReadFault (Reading Entries (s.length + 1)) := do
  let p ← pair s
  have := p.shorter
  let t ← required (t.assign p.value.1 p.value.2)
  have hn := length_skipBlank_le p.rest
  match _h : skipBlank p.rest with
  | '\x7d' :: rest => Reading.leaving _ t.entries rest
  | ',' :: rest =>
    have : rest.length < (skipBlank p.rest).length := by simp [_h]
    let more ← inlinePairs t rest
    return more.as more.value (by omega)
  | _ => .error .malformed
termination_by 4 * s.length + 2

end

/-- A table header after its opening bracket. -/
def tableHeader (d : Document) (s : List Char) : Except ReadFault (Reading Document s.length) := do
  let k ← key (skipBlank s)
  let d ← required (d.openTable k.value)
  match k.rest with
  | ']' :: rest => Reading.leaving s.length d rest
  | _ => .error .malformed

/-- The header of a table in a list of tables, after its opening brackets. -/
def listHeader (d : Document) (s : List Char) : Except ReadFault (Reading Document s.length) := do
  let k ← key (skipBlank s)
  let d ← required (d.openListTable k.value)
  match k.rest with
  | ']' :: ']' :: rest => Reading.leaving s.length d rest
  | _ => .error .malformed

/-- A statement, without the blanks and the comment around it. -/
def statement (d : Document) (s : List Char) : Except ReadFault (Reading Document s.length) :=
  match s with
  | '[' :: '[' :: cs => do
    let r ← listHeader d cs
    return r.as r.value (by simp only [List.length_cons]; omega)
  | '[' :: cs => do
    let r ← tableHeader d cs
    return r.as r.value (Nat.le_succ _)
  | s => do
    let p ← pair s
    let d ← required (d.assign p.value.1 p.value.2)
    return p.as d (Nat.le_refl _)

/-- What ends a line: blanks, a comment and a line feed, or the end of the text. -/
def lineEnd (s : List Char) : Except ReadFault { r : List Char // r.length ≤ s.length } :=
  have hs := length_skipBlank_le s
  match _h : skipComment (skipBlank s) with
  | none => .error .malformed
  | some [] => .ok ⟨[], Nat.zero_le _⟩
  | some (c :: rest) =>
    have := length_of_skipComment _h
    if c = '\n' then .ok ⟨rest, by simp at this; omega⟩ else .error .malformed

/-- The document that the statements of a text make of another one. -/
def statements (d : Document) (s : List Char) : Except ReadFault Document := do
  have hs := length_skipBlank_le s
  match _h : skipBlank s with
  | [] => return d
  | '\n' :: rest =>
    have : rest.length < s.length := by rw [_h] at hs; simp at hs; omega
    statements d rest
  | '#' :: cs =>
    match _hc : skipComment ('#' :: cs) with
    | none => .error .malformed
    | some rest =>
      have : rest.length < s.length := by
        have h1 : rest.length ≤ cs.length := by
          unfold skipComment at _hc
          simp only at _hc
          split at _hc
          · simp at _hc
          · obtain rfl := by simpa using _hc
            exact (List.dropWhile_suffix _).length_le
        rw [_h] at hs
        simp at hs
        omega
      statements d rest
  | first =>
    let r ← statement d (skipBlank s)
    have := r.shorter
    let ⟨rest, _⟩ ← lineEnd r.rest
    statements r.value rest
termination_by s.length

/-- Line ends as line feeds: a carriage return counts as one, with a line feed after it or not. -/
def lineFeeds : List Char → List Char
  | [] => []
  | '\r' :: '\n' :: cs => '\n' :: lineFeeds cs
  | '\r' :: cs => '\n' :: lineFeeds cs
  | c :: cs => c :: lineFeeds cs

/-- The table that a text holds. -/
def read (s : List Char) : Except ReadFault Entries := do
  let d ← statements ⟨[], [], [], [], []⟩ (lineFeeds s)
  return d.root

end TaskQuery.Toml
