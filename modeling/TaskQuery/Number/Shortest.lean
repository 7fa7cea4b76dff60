import TaskQuery.Number.Binary64
import TaskQuery.Text.Digit

/-!
# The shortest decimal of a floating-point number

A floating-point number is written with the fewest digits that are read back as the same number,
and of those with the digits nearest to it.  Positional notation is used for numbers from 0.0001
up to, but not including, 10^16; outside that range the exponent is written with a sign and at
least two digits.
-/

namespace TaskQuery.Binary64

/-- The significand and exponent with the significand made as long as the format allows. -/
def lengthen (significand : Nat) (exponent : Int) : Nat × Int :=
  let shift := min (52 - Nat.log2 significand) (exponent - minExponent).toNat
  (significand <<< shift, exponent - shift)

/-- Twice the bounds of the reals that round to a number, and twice the number, over a common
denominator. -/
structure Neighbourhood where
  /-- Twice the lower bound. -/
  lower : Nat
  /-- Twice the number. -/
  value : Nat
  /-- Twice the upper bound. -/
  upper : Nat
  /-- The common denominator. -/
  denominator : Nat
  /-- Whether the bounds themselves round to the number. -/
  closed : Bool

/-- The neighbourhood of a positive number, in quarters of its last place. -/
def neighbourhood (significand : Nat) (exponent : Int) : Neighbourhood :=
  let (m, e) := lengthen significand exponent
  let below := if m = 1 <<< 52 ∧ minExponent < e then 1 else 2
  let scale := if e < 0 then 1 else 1 <<< e.natAbs
  { lower := (4 * m - below) * scale
    value := 4 * m * scale
    upper := (4 * m + 2) * scale
    denominator := 4 * (if e < 0 then 1 <<< e.natAbs else 1)
    closed := m % 2 == 0 }

/-- Whether `digits * 10 ^ exponent` lies in the neighbourhood. -/
def Neighbourhood.contains (n : Neighbourhood) (digits : Nat) (exponent : Int) : Bool :=
  let up := if exponent < 0 then 1 else Nat.pow 10 exponent.natAbs
  let down := if exponent < 0 then Nat.pow 10 exponent.natAbs else 1
  let point := digits * up * n.denominator
  if n.closed then n.lower * down ≤ point && point ≤ n.upper * down
  else n.lower * down < point && point < n.upper * down

/-- The largest whole number of steps of `10 ^ exponent` below the number, and twice what is
left over compared with a step. -/
def Neighbourhood.steps (n : Neighbourhood) (exponent : Int) : Nat × Ordering :=
  let up := if exponent < 0 then 1 else Nat.pow 10 exponent.natAbs
  let down := if exponent < 0 then Nat.pow 10 exponent.natAbs else 1
  let step := up * n.denominator
  (n.value * down / step, compare (2 * (n.value * down % step)) step)

/-- The exponent `p` for which the number lies from `10 ^ (p - 1)` up to `10 ^ p`. -/
def Neighbourhood.decimalPoint (n : Neighbourhood) : Int :=
  let guess : Int := (Nat.toDigits 10 n.value).length - (Nat.toDigits 10 n.denominator).length
  if (n.steps guess).1 ≥ 1 then guess + 1 else guess

/-- The digits of a grid that lie in the neighbourhood, the nearest of them. -/
def Neighbourhood.digits? (n : Neighbourhood) (exponent : Int) : Option Nat :=
  let (below, side) := n.steps exponent
  let lowerFits := n.contains below exponent
  let upperFits := n.contains (below + 1) exponent
  match lowerFits, upperFits with
  | false, false => none
  | true, false => some below
  | false, true => some (below + 1)
  | true, true =>
    match side with
    | .lt => some below
    | .gt => some (below + 1)
    | .eq => some (if below % 2 == 0 then below else below + 1)

/-- The shortest digits of a positive number and the power of ten of the last of them. -/
def shortest (significand : Nat) (exponent : Int) : Nat × Int :=
  let n := neighbourhood significand exponent
  let point := n.decimalPoint
  ((List.range' 1 17).findSome? fun (count : Nat) =>
    (n.digits? (point - count)).map fun d => (d, point - count)).getD (0, 0)

/-- Digits without the zeros at their end, and how many zeros those were. -/
def dropZeros (ds : List Char) : List Char × Nat :=
  let kept := (ds.reverse.dropWhile (· = '0')).reverse
  (kept, ds.length - kept.length)

/-- Digits `d₁d₂…` as the number `0.d₁d₂… * 10 ^ point`. -/
def layOut (ds : List Char) (point : Int) : List Char :=
  if -4 < point ∧ point ≤ 16 then
    if point ≤ 0 then "0.".toList ++ List.replicate point.natAbs '0' ++ ds
    else
      let whole := ds.take point.toNat ++ List.replicate (point.toNat - ds.length) '0'
      let fraction := ds.drop point.toNat
      whole ++ '.' :: (if fraction.isEmpty then ['0'] else fraction)
  else
    let power := point - 1
    let mantissa := match ds with
      | [] => []
      | [d] => [d]
      | d :: more => d :: '.' :: more
    mantissa ++ 'e' :: (if power < 0 then '-' else '+') :: Text.paddedDecimal 2 power.natAbs

/-- The number as text. -/
def text : Binary64 → List Char
  | nan => "nan".toList
  | infinite negative => (if negative then "-inf" else "inf").toList
  | finite negative m e =>
    let sign := if negative then ['-'] else []
    if m = 0 then sign ++ "0.0".toList
    else
      let (digits, power) := shortest m e
      let (ds, zeros) := dropZeros (Text.decimal digits)
      sign ++ layOut ds (power + zeros + ds.length)

end TaskQuery.Binary64
