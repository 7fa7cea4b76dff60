/-!
# Binary floating-point numbers

The numbers of the 64-bit binary format: a sign, a whole significand below 2^53 and a power of
two, besides the infinities and the value that is no number.  A finite one stands for an exact
fraction, so comparing two of them, or one with a whole number, is exact.  Reading rounds a
fraction to the nearest number of the format, a tie to the even significand (`ofRatio`).
-/

namespace TaskQuery

/-- The quotient rounded to the nearest whole number, a tie to the even one. -/
def roundQuotient (numerator denominator : Nat) : Nat :=
  let q := numerator / denominator
  let twice := 2 * (numerator % denominator)
  if twice > denominator || (twice == denominator && q % 2 == 1) then q + 1 else q

/-- A number of the 64-bit binary floating-point format. -/
inductive Binary64 where
  /-- Not a number. -/
  | nan
  /-- An infinity. -/
  | infinite (negative : Bool)
  /-- The number `significand * 2 ^ exponent`, or its opposite. -/
  | finite (negative : Bool) (significand : Nat) (exponent : Int)
  deriving DecidableEq, Repr

namespace Binary64

/-- The least exponent of the format. -/
def minExponent : Int := -1074

/-- The greatest exponent of a significand of full length. -/
def maxExponent : Int := 971

/-- `numerator / (denominator * 2 ^ exponent)` rounded to the nearest whole number. -/
def scaledSignificand (numerator denominator : Nat) (exponent : Int) : Nat :=
  if exponent < 0 then roundQuotient (numerator <<< exponent.natAbs) denominator
  else roundQuotient numerator (denominator <<< exponent.natAbs)

/-- The exponent at which a positive fraction has a significand of 53 bits before rounding, or
the least exponent of the format. -/
def exponentOf (numerator denominator : Nat) : Int :=
  let e := (Nat.log2 numerator : Int) - Nat.log2 denominator - 52
  let long := if e < 0 then numerator <<< e.natAbs ≥ denominator <<< 52
    else numerator ≥ denominator <<< (52 + e.natAbs)
  max (if long then e else e - 1) minExponent

/-- The number nearest to a fraction. -/
def ofRatio (negative : Bool) (numerator denominator : Nat) : Binary64 :=
  if numerator = 0 then finite negative 0 minExponent
  else
    let e := exponentOf numerator denominator
    let m := scaledSignificand numerator denominator e
    let (m, e) := if m = 1 <<< 53 then (1 <<< 52, e + 1) else (m, e)
    if e > maxExponent then infinite negative else finite negative m e

/-- The number nearest to `digits * 10 ^ exponent`.  Far outside the format the power is not
formed: the result is then an infinity or a zero. -/
def ofDecimal (negative : Bool) (digits : Nat) (exponent : Int) : Binary64 :=
  if digits = 0 then finite negative 0 minExponent
  else
    let magnitude := exponent + (Nat.toDigits 10 digits).length
    if magnitude > 400 then infinite negative
    else if magnitude < -400 then finite negative 0 minExponent
    else if exponent < 0 then ofRatio negative digits (Nat.pow 10 exponent.natAbs)
    else ofRatio negative (digits * Nat.pow 10 exponent.natAbs) 1

/-- A number as an order: below all, a signed number in units of the least power of two, above
all, or not comparable. -/
inductive Magnitude where
  /-- Below every finite number. -/
  | bottom
  /-- So many times the least power of two. -/
  | units (n : Int)
  /-- Above every finite number. -/
  | top
  deriving DecidableEq

/-- The place of a number in the order; none for the value that is no number. -/
def magnitude? : Binary64 → Option Magnitude
  | nan => none
  | infinite true => some .bottom
  | infinite false => some .top
  | finite negative m e =>
    let n : Int := (m <<< (e - minExponent).toNat : Nat)
    some (.units (if negative then -n else n))

/-- The place of a whole number in the order. -/
def wholeMagnitude (n : Int) : Magnitude := .units (n * (1 <<< (-minExponent).toNat : Nat))

/-- The strict order. -/
def Magnitude.before : Magnitude → Magnitude → Bool
  | bottom, bottom => false
  | bottom, _ => true
  | _, bottom => false
  | units m, units n => m < n
  | units _, top => true
  | top, _ => false

end Binary64

end TaskQuery
