import TextTemplate.Decimal.Digits
import TextTemplate.Json.Form

/-!
The meaning of JSON numbers. A number without point and exponent whose digits fit into 64
bits is an integer. Every other number is a fraction: its digits are gathered as long as
they fit into 64 bits, further digits only count as places, and the gathered integer is
then multiplied or divided once by a power of ten. A number that grows beyond the finite
range has no meaning, and one that is too small is zero.
-/
namespace TextTemplate.Json

open Decimal

inductive Number where
  | int (n : Int)
  | float (x : Float)

/-- Gathers digits before the point. The second result counts the digits left over. -/
def gatherWhole (gathered : Nat) : List Char → Nat × Nat
  | [] => (gathered, 0)
  | c :: rest =>
    if 10 * gathered + digitValue c < wordLimit then gatherWhole (10 * gathered + digitValue c) rest
    else (gathered, rest.length + 1)

/-- Gathers digits after the point. The second result counts the digits gathered. -/
def gatherPlaces (gathered count : Nat) : List Char → Nat × Nat
  | [] => (gathered, count)
  | c :: rest =>
    if 10 * gathered + digitValue c < wordLimit then
      gatherPlaces (10 * gathered + digitValue c) (count + 1) rest
    else (gathered, count)

/-- The greatest power of ten that is applied in one step. -/
def maxPower : Nat := 308

/-- Divides by a power of ten. A power too large for one step is split; after a few steps
every number has become zero. -/
def divideByPower : Nat → Float → Nat → Float
  | 0, x, _ => x
  | steps + 1, x, power =>
    if power ≤ maxPower then x / Float.ofScientific 1 false power
    else if x == 0 then x
    else divideByPower steps (x / Float.ofScientific 1 false maxPower) (power - maxPower)

def multiplyByPower (x : Float) (power : Nat) : Option Float :=
  if power ≤ maxPower then
    let y := x * Float.ofScientific 1 false power
    if y == 1.0 / 0.0 then none else some y
  else if x == 0 then some x
  else none

def applyPower (x : Float) (power : Int) : Option Float :=
  if 0 ≤ power then multiplyByPower x power.toNat
  else some (divideByPower 8 x (-power).toNat)

def exponentValue : Option (Bool × List Char) → Int
  | none => 0
  | some (negative, digits) =>
    let n : Int := valueFrom 0 digits
    if negative then -n else n

/-- The integer of a numeral without point and exponent. A minus zero is no integer, since
it keeps its sign. -/
def integer? (n : Numeral) : Option Int :=
  let value := valueFrom 0 n.whole
  if n.places.isSome || n.exponent.isSome then none
  else if n.negative then
    if value ≠ 0 ∧ inRange (-(value : Int)) then some (-(value : Int)) else none
  else if value < wordLimit then some value
  else none

def fraction? (n : Numeral) : Option Float :=
  let (whole, left) := gatherWhole 0 n.whole
  let (gathered, count) := gatherPlaces whole 0 (n.places.getD [])
  let magnitude :=
    applyPower (Float.ofNat gathered) ((left : Int) - count + exponentValue n.exponent)
  magnitude.map fun x => if n.negative then -x else x

def number? (n : Numeral) : Option Number :=
  match integer? n with
  | some value => some (.int value)
  | none => (fraction? n).map .float

end TextTemplate.Json
