/-!
# Reading from the front of a text

A reader of a data format takes something from the front of a text and leaves the rest.  The rest
is shorter by construction, so that readers may call one another on it.
-/

namespace TaskQuery

/-- Why a text of a data format is not read. -/
inductive ReadFault where
  /-- The text does not follow the format. -/
  | malformed
  /-- A whole number has more digits than are read. -/
  | hugeNumber
  deriving DecidableEq, Repr

/-- Something read from the front of a text, and the rest of it, shorter than `bound`. -/
structure Reading (α : Type) (bound : Nat) where
  /-- What was read. -/
  value : α
  /-- The rest of the text. -/
  rest : List Char
  /-- Something was taken. -/
  shorter : rest.length < bound

namespace Reading

/-- A reading stays one under a larger bound, with another value. -/
def as {α β : Type} {m n : Nat} (r : Reading α m) (value : β) (h : m ≤ n) : Reading β n :=
  ⟨value, r.rest, Nat.lt_of_lt_of_le r.shorter h⟩

/-- The reading that leaves `rest`; a text that is not shorter is malformed. -/
def leaving {α : Type} (bound : Nat) (value : α) (rest : List Char) :
    Except ReadFault (Reading α bound) :=
  if h : rest.length < bound then .ok ⟨value, rest, h⟩ else .error .malformed

/-- The reading of something that may be missing; a missing one is malformed. -/
def ofOption {α : Type} (bound : Nat) : Option (α × List Char) → Except ReadFault (Reading α bound)
  | some (value, rest) => leaving bound value rest
  | none => .error .malformed

end Reading

/-- The value of a hexadecimal digit. -/
def Text.hexValue? (c : Char) : Option Nat :=
  if '0' ≤ c && c ≤ '9' then some (c.toNat - '0'.toNat)
  else if 'a' ≤ c && c ≤ 'f' then some (c.toNat - 'a'.toNat + 10)
  else if 'A' ≤ c && c ≤ 'F' then some (c.toNat - 'A'.toNat + 10)
  else none

/-- The number that hexadecimal digits write. -/
def Text.hexNumber? : List Char → Option Nat :=
  List.foldlM (fun n c => (Text.hexValue? c).map (16 * n + ·)) 0

end TaskQuery
