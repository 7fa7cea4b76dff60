/-!
# Decimal digits

Every script's decimal digits come in a block of ten, zero first.  A digit's value is its
distance from the zero of its block.
-/

namespace TaskQuery.Text

/-- The zeros of the decimal digit blocks (Unicode 14). -/
def digitZeros : List Nat := [
  0x30, 0x660, 0x6f0, 0x7c0, 0x966, 0x9e6, 0xa66, 0xae6, 0xb66, 0xbe6, 0xc66, 0xce6, 0xd66,
  0xde6, 0xe50, 0xed0, 0xf20, 0x1040, 0x1090, 0x17e0, 0x1810, 0x1946, 0x19d0, 0x1a80, 0x1a90,
  0x1b50, 0x1bb0, 0x1c40, 0x1c50, 0xa620, 0xa8d0, 0xa900, 0xa9d0, 0xa9f0, 0xaa50, 0xabf0, 0xff10,
  0x104a0, 0x10d30, 0x11066, 0x110f0, 0x11136, 0x111d0, 0x112f0, 0x11450, 0x114d0, 0x11650,
  0x116c0, 0x11730, 0x118e0, 0x11950, 0x11c50, 0x11d50, 0x11da0, 0x16a60, 0x16ac0, 0x16b50,
  0x1d7ce, 0x1d7d8, 0x1d7e2, 0x1d7ec, 0x1d7f6, 0x1e140, 0x1e2f0, 0x1e950, 0x1fbf0]

/-- The value of a decimal digit of any script. -/
def digitValue? (c : Char) : Option Nat :=
  (digitZeros.find? fun z => z ≤ c.toNat && c.toNat < z + 10).map (c.toNat - ·)

/-- A decimal digit of any script. -/
def isDigit (c : Char) : Bool := (digitValue? c).isSome

/-- Read digits on top of the number read so far; anything that is no digit makes it fail. -/
def readDigits? : (sofar : Nat) → List Char → Option Nat
  | n, [] => some n
  | n, c :: cs =>
    match digitValue? c with
    | some d => readDigits? (10 * n + d) cs
    | none => none

/-- The longest run of digits that is read or written as a whole number. -/
def maxNumberDigits : Nat := 4300

/-- A whole number: one or more digits, and at most `maxNumberDigits` of them. -/
def wholeNumber? (s : List Char) : Option Nat :=
  if s.isEmpty || s.length > maxNumberDigits then none else readDigits? 0 s

/-- The decimal digits of a number. -/
def decimal (n : Nat) : List Char := Nat.toDigits 10 n

/-- A number in decimal, with zeros put in front up to the given width. -/
def paddedDecimal (width n : Nat) : List Char :=
  List.replicate (width - (decimal n).length) '0' ++ decimal n

/-- Whether a whole number is written: it has at most `maxNumberDigits` digits. -/
def isWritable (n : Int) : Bool := (decimal n.natAbs).length ≤ maxNumberDigits

/-- A whole number in decimal, a minus sign in front of a negative one. -/
def signedDecimal (n : Int) : List Char :=
  if n < 0 then '-' :: decimal n.natAbs else decimal n.natAbs

end TaskQuery.Text
