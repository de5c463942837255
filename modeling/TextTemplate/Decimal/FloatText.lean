import TextTemplate.Decimal.Digits
import TextTemplate.Decimal.Shortest

/-!
The text of a floating-point number: the shortest decimal that reads back as the same
number, written without an exponent and without a point when it is whole. Reading accepts
signs, a point with digits on at least one side, an exponent, and the names of infinity
and of the undefined value in any case of letters.
-/
namespace TextTemplate.Decimal

/-- The digits of a decimal written out to its last place. -/
def positional (d : Scientific) : List Char :=
  let digits := natText d.digits
  if 0 ≤ d.exponent then digits ++ List.replicate d.exponent.toNat '0'
  else
    let places := (-d.exponent).toNat
    if places < digits.length then
      digits.take (digits.length - places) ++ '.' :: digits.drop (digits.length - places)
    else '0' :: '.' :: List.replicate (places - digits.length) '0' ++ digits

/-- Sign, exponent field and fraction field of a number. -/
structure Fields where
  negative : Bool
  exponent : Nat
  fraction : Nat
deriving DecidableEq

def fields (x : Float) : Fields :=
  let bits := x.toBits.toNat
  { negative := bits / 0x8000000000000000 == 1
    exponent := bits / 0x10000000000000 % 0x800
    fraction := bits % 0x10000000000000 }

/-- The text of the magnitude, for all fields but those of infinity. -/
def magnitudeText (f : Fields) : List Char :=
  if f.exponent = 0 then
    if f.fraction = 0 then ['0'] else positional (shortest f.fraction (-1074) false)
  else
    positional (shortest (0x10000000000000 + f.fraction) (f.exponent - 1075)
      (f.fraction == 0 && decide (1 < f.exponent)))

def floatText (x : Float) : String :=
  let f := fields x
  if f.exponent = 2047 ∧ f.fraction ≠ 0 then "NaN"
  else
    let magnitude := if f.exponent = 2047 then ['i', 'n', 'f'] else magnitudeText f
    String.ofList (if f.negative then '-' :: magnitude else magnitude)

/-- The number nearest to `digits · 10 ^ exponent`. Far outside the range of finite
numbers the answer is known without computing a large power. -/
def toFloat (digits : Nat) (exponent : Int) : Float :=
  let places := (natText digits).length
  if digits = 0 then 0
  else if 400 < places + exponent then 1.0 / 0.0
  else if places + exponent < -400 then 0
  else Float.ofScientific digits (decide (exponent < 0)) exponent.natAbs

/-- Splits an exponent mark and the signed digits after it from what precedes them. -/
def splitExponent : List Char → List Char × Option (List Char)
  | [] => ([], none)
  | c :: rest =>
    if c = 'e' ∨ c = 'E' then ([], some rest)
    else
      let (before, after) := splitExponent rest
      (c :: before, after)

/-- An exponent without digits is malformed; a missing one counts as zero. -/
def readExponent : Option (List Char) → Option Int
  | none => some 0
  | some cs =>
    let (negative, digits) := splitSign cs
    (readNat digits).map fun n => if negative then -(n : Int) else n

/-- Reads digits with at most one point among them, as an integer and its scale. -/
def readMantissa (cs : List Char) : Option (Nat × Nat) :=
  let whole := cs.takeWhile Char.isDigit
  match cs.dropWhile Char.isDigit with
  | [] => if whole.isEmpty then none else some (valueFrom 0 whole, 0)
  | c :: places =>
    if c = '.' ∧ places.all Char.isDigit ∧ (whole ≠ [] ∨ places ≠ []) then
      some (valueFrom (valueFrom 0 whole) places, places.length)
    else none

/-- Reads a number that carries no sign. -/
def readMagnitude (cs : List Char) : Option Float :=
  let name := cs.map Char.toLower
  if name = ['i', 'n', 'f'] ∨ name = ['i', 'n', 'f', 'i', 'n', 'i', 't', 'y'] then
    some (1.0 / 0.0)
  else if name = ['n', 'a', 'n'] then some (0.0 / 0.0)
  else
    let (mantissa, after) := splitExponent cs
    match readMantissa mantissa, readExponent after with
    | some (digits, scale), some exponent => some (toFloat digits (exponent - scale))
    | _, _ => none

def readFloat (cs : List Char) : Option Float :=
  let (negative, magnitude) := splitSign cs
  (readMagnitude magnitude).map fun x => if negative then -x else x

end TextTemplate.Decimal
