/-!
Shortest decimals. A binary fraction `m · 2 ^ q` stands for all numbers that round to it,
an interval that holds its ends exactly when `m` is even. Among the decimals of that
interval the search takes one with the fewest digits: for one digit, then two, and so on
it tests the two neighbours of the fraction on the decimal grid of that many digits. If
both lie inside, the nearer one is taken, and the upper one when both are as near.
-/
namespace TextTemplate.Decimal

def twoTo (n : Nat) : Nat := Nat.pow 2 n

def tenTo (n : Nat) : Nat := Nat.pow 10 n

/-- The number `digits · 10 ^ exponent`. -/
structure Scientific where
  digits : Nat
  exponent : Int
deriving DecidableEq

/-- A positive binary fraction and its rounding interval, all three over one denominator. -/
structure Rounding where
  value : Nat
  low : Nat
  high : Nat
  scale : Nat
  closed : Bool
deriving DecidableEq

namespace Rounding

/-- The rounding interval of `m · 2 ^ q`. When `narrow` is set, the next smaller fraction is
only half as far away as the next greater one. -/
def ofBinary (m : Nat) (q : Int) (narrow : Bool) : Rounding :=
  let unit := twoTo (q - 2).toNat
  { value := 4 * m * unit
    low := (if narrow then 4 * m - 1 else 4 * m - 2) * unit
    high := (4 * m + 2) * unit
    scale := twoTo (2 - q).toNat
    closed := m % 2 == 0 }

/-- The decimal lies in the interval. -/
def holds (r : Rounding) (digits : Nat) (exponent : Int) : Bool :=
  let shown := digits * tenTo exponent.toNat * r.scale
  let unit := tenTo (-exponent).toNat
  if r.closed then decide (r.low * unit ≤ shown) && decide (shown ≤ r.high * unit)
  else decide (r.low * unit < shown) && decide (shown < r.high * unit)

/-- The greatest multiple of `10 ^ exponent` that is not above the value. -/
def below (r : Rounding) (exponent : Int) : Nat :=
  r.value * tenTo (-exponent).toNat / (r.scale * tenTo exponent.toNat)

/-- The value is nearer to `digits` than to its successor on the grid of `exponent`. -/
def nearerBelow (r : Rounding) (digits : Nat) (exponent : Int) : Bool :=
  decide (2 * (r.value * tenTo (-exponent).toNat) <
    (2 * digits + 1) * (r.scale * tenTo exponent.toNat))

/-- The neighbour that stands for the value on the grid of `exponent`, if one does. -/
def onGrid (r : Rounding) (exponent : Int) : Option Nat :=
  let digits := r.below exponent
  match r.holds digits exponent, r.holds (digits + 1) exponent with
  | true, true => some (if r.nearerBelow digits exponent then digits else digits + 1)
  | true, false => some digits
  | false, true => some (digits + 1)
  | false, false => none

/-- Looks at finer and finer grids, `steps` of them, starting with that of `exponent`. -/
def search (r : Rounding) (exponent : Int) : Nat → Option Scientific
  | 0 => none
  | steps + 1 =>
    match r.onGrid exponent with
    | some digits => some ⟨digits, exponent⟩
    | none => r.search (exponent - 1) steps

/-- The number of places by which a fraction below one must be shifted to reach one. -/
def leadingShift (r : Rounding) : Nat → Nat → Nat
  | 0, places => places
  | steps + 1, places =>
    if r.scale ≤ r.value * tenTo places then places else r.leadingShift steps (places + 1)

/-- The power of ten of the leading digit. -/
def magnitude (r : Rounding) : Int :=
  if r.scale ≤ r.value then ((Nat.toDigits 10 (r.value / r.scale)).length : Int) - 1
  else -(r.leadingShift 400 0 : Int)

end Rounding

/-- Moves trailing zeros of the digits into the exponent, at most `steps` of them. -/
def dropZeros : Nat → Scientific → Scientific
  | 0, d => d
  | steps + 1, d =>
    if d.digits ≠ 0 ∧ d.digits % 10 = 0 then dropZeros steps ⟨d.digits / 10, d.exponent + 1⟩
    else d

/-- The shortest decimal that rounds to `m · 2 ^ q`. Twenty digits are more than any
binary fraction of 53 bits needs. -/
def shortest (m : Nat) (q : Int) (narrow : Bool) : Scientific :=
  let r := Rounding.ofBinary m q narrow
  match r.search r.magnitude 20 with
  | some d => dropZeros 20 d
  | none => ⟨r.below 0, 0⟩

end TextTemplate.Decimal
