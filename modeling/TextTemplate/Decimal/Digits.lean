/-!
Decimal digits. A digit string denotes a natural number, and integers are read with an
optional sign. The readers accept ASCII digits only and refuse a number that its range
cannot hold.
-/
namespace TextTemplate.Decimal

def digitValue (c : Char) : Nat := c.toNat - '0'.toNat

/-- The number that a string of digits denotes after `start`. -/
def valueFrom (start : Nat) (cs : List Char) : Nat :=
  cs.foldl (fun n c => 10 * n + digitValue c) start

/-- Reads a non-empty string that holds digits only. -/
def readNat (cs : List Char) : Option Nat :=
  if !cs.isEmpty && cs.all Char.isDigit then some (valueFrom 0 cs) else none

/-- The number of values that 64 bits can hold. -/
def wordLimit : Nat := 0x10000000000000000

/-- The least and the greatest integer value. -/
def minInt : Int := -0x8000000000000000

def maxInt : Int := 0x7fffffffffffffff

def inRange (n : Int) : Bool := decide (minInt ≤ n) && decide (n ≤ maxInt)

/-- An integer outside the range becomes the nearer end of it. -/
def clamp (n : Int) : Int := max minInt (min maxInt n)

/-- An integer outside the range loses its high bits. -/
def wrap (n : Int) : Int := Int.bmod n wordLimit

/-- Splits off a sign; the flag says whether it is a minus. -/
def splitSign : List Char → Bool × List Char
  | '-' :: rest => (true, rest)
  | '+' :: rest => (false, rest)
  | cs => (false, cs)

/-- Reads an integer with an optional sign. -/
def readInt (cs : List Char) : Option Int :=
  let (negative, digits) := splitSign cs
  match readNat digits with
  | none => none
  | some n =>
    let value : Int := if negative then -n else n
    if inRange value then some value else none

/-- Reads a position in a list, which may carry a plus sign but no minus. -/
def readIndex (cs : List Char) : Option Nat :=
  let digits := match cs with
    | '+' :: rest => rest
    | _ => cs
  match readNat digits with
  | some n => if n < wordLimit then some n else none
  | none => none

/-- The decimal digits of a number, without leading zeros. -/
def natText (n : Nat) : List Char := Nat.toDigits 10 n

def intText (n : Int) : List Char :=
  if n < 0 then '-' :: natText n.natAbs else natText n.natAbs

theorem isDigit_of_mem_natText {n : Nat} {c : Char} (h : c ∈ natText n) : c.isDigit = true :=
  Nat.isDigit_of_mem_toDigits (by decide) (by decide) h

theorem readNat_natText (n : Nat) : readNat (natText n) = some n := by
  have hne : (natText n).isEmpty = false := by
    rw [natText, List.isEmpty_eq_false_iff]
    exact Nat.toDigits_ne_nil
  have hdigits : (natText n).all Char.isDigit = true := by
    rw [List.all_eq_true]
    exact fun c hc => isDigit_of_mem_natText hc
  have hvalue : valueFrom 0 (natText n) = n := Nat.ofDigitChars_ten_toDigits
  rw [readNat, hne, hdigits, hvalue]
  rfl

/-- The digits of a number carry no sign. -/
theorem splitSign_natText (n : Nat) : splitSign (natText n) = (false, natText n) := by
  unfold splitSign
  split
  · rename_i rest hminus
    have hmem : '-' ∈ natText n := by
      rw [hminus]
      exact List.mem_cons_self
    exact absurd (isDigit_of_mem_natText hmem) (by decide)
  · rename_i rest hplus
    have hmem : '+' ∈ natText n := by
      rw [hplus]
      exact List.mem_cons_self
    exact absurd (isDigit_of_mem_natText hmem) (by decide)
  · rfl

/-- An integer in range reads back from its decimal text. -/
theorem readInt_intText {n : Int} (h : inRange n = true) : readInt (intText n) = some n := by
  unfold intText
  split
  · rename_i hneg
    have hvalue : -(n.natAbs : Int) = n := by omega
    rw [readInt, splitSign]
    simp only [readNat_natText, if_true, hvalue, h]
  · rename_i hpos
    have hvalue : (n.natAbs : Int) = n := by omega
    rw [readInt, splitSign_natText]
    simp only [readNat_natText, Bool.false_eq_true, if_false, hvalue, h, if_true]

end TextTemplate.Decimal
