/-!
JSON texts as they are written. A form keeps numbers as their digits and strings as their
parts, so that it exists for every text of the JSON grammar, also for one whose numbers
are out of range or whose escapes are no characters. What a form means is decided apart.
-/
namespace TextTemplate.Json

/-- A part of a string: a character, or a sixteen-bit unit that an escape gives. -/
inductive Part where
  | char (c : Char)
  | unit (code : Nat)
deriving DecidableEq

/-- The digits of a number: those before the point, those after it, and the exponent with
its sign. -/
structure Numeral where
  negative : Bool
  whole : List Char
  places : Option (List Char)
  exponent : Option (Bool × List Char)
deriving DecidableEq

inductive Form where
  | null
  | bool (b : Bool)
  | number (n : Numeral)
  | text (parts : List Part)
  | list (items : List Form)
  | object (members : List (List Part × Form))

namespace Form

def isBlank (c : Char) : Bool := c == ' ' || c == '\n' || c == '\t' || c == '\r'

def skipBlank (cs : List Char) : List Char := cs.dropWhile isBlank

def hexValue (c : Char) : Option Nat :=
  if c.isDigit then some (c.toNat - '0'.toNat)
  else if 'a' ≤ c ∧ c ≤ 'f' then some (c.toNat - 'a'.toNat + 10)
  else if 'A' ≤ c ∧ c ≤ 'F' then some (c.toNat - 'A'.toNat + 10)
  else none

/-- The unit that four hexadecimal digits give. -/
def hexUnit (a b c d : Char) : Option Nat := do
  let a ← hexValue a
  let b ← hexValue b
  let c ← hexValue c
  let d ← hexValue d
  return 4096 * a + 256 * b + 16 * c + d

/-- The character that a backslash and this letter stand for. -/
def simpleEscape : Char → Option Char
  | '"' => some '"'
  | '\\' => some '\\'
  | '/' => some '/'
  | 'b' => some '\x08'
  | 'f' => some '\x0c'
  | 'n' => some '\n'
  | 'r' => some '\r'
  | 't' => some '\t'
  | _ => none

/-- Reads a string up to its closing quote, and returns what follows. -/
def readParts : List Char → Option (List Part × List Char)
  | [] => none
  | '"' :: rest => some ([], rest)
  | '\\' :: 'u' :: a :: b :: c :: d :: rest => do
    let code ← hexUnit a b c d
    let (parts, after) ← readParts rest
    return (.unit code :: parts, after)
  | '\\' :: letter :: rest => do
    let c ← simpleEscape letter
    let (parts, after) ← readParts rest
    return (.char c :: parts, after)
  | c :: rest =>
    if c.toNat < 0x20 ∨ c = '\\' then none
    else do
      let (parts, after) ← readParts rest
      return (.char c :: parts, after)

/-- Reads one digit or more. -/
def readDigits (cs : List Char) : Option (List Char × List Char) :=
  let digits := cs.takeWhile Char.isDigit
  if digits.isEmpty then none else some (digits, cs.dropWhile Char.isDigit)

/-- Reads digits without a needless leading zero. -/
def readWhole : List Char → Option (List Char × List Char)
  | '0' :: rest => some (['0'], rest)
  | cs => readDigits cs

def readPlaces : List Char → Option (Option (List Char) × List Char)
  | '.' :: rest => (readDigits rest).map fun (digits, after) => (some digits, after)
  | cs => some (none, cs)

def readExponentDigits : List Char → Option (Bool × List Char × List Char)
  | '-' :: rest => (readDigits rest).map fun (digits, after) => (true, digits, after)
  | '+' :: rest => (readDigits rest).map fun (digits, after) => (false, digits, after)
  | cs => (readDigits cs).map fun (digits, after) => (false, digits, after)

def readExponent : List Char → Option (Option (Bool × List Char) × List Char)
  | [] => some (none, [])
  | c :: rest =>
    if c = 'e' ∨ c = 'E' then
      (readExponentDigits rest).map fun (negative, digits, after) =>
        (some (negative, digits), after)
    else some (none, c :: rest)

def readMagnitude (negative : Bool) (cs : List Char) : Option (Numeral × List Char) := do
  let (whole, cs) ← readWhole cs
  let (places, cs) ← readPlaces cs
  let (exponent, cs) ← readExponent cs
  return (⟨negative, whole, places, exponent⟩, cs)

def readNumeral : List Char → Option (Numeral × List Char)
  | '-' :: rest => readMagnitude true rest
  | cs => readMagnitude false cs

mutual

/-- Reads a value. Every call of the four readers uses up one unit of the first argument,
and between two calls at least one character is read. -/
def readValue : Nat → List Char → Option (Form × List Char)
  | 0, _ => none
  | fuel + 1, cs =>
    match skipBlank cs with
    | 'n' :: 'u' :: 'l' :: 'l' :: rest => some (.null, rest)
    | 't' :: 'r' :: 'u' :: 'e' :: rest => some (.bool true, rest)
    | 'f' :: 'a' :: 'l' :: 's' :: 'e' :: rest => some (.bool false, rest)
    | '"' :: rest => (readParts rest).map fun (parts, after) => (.text parts, after)
    | '[' :: rest =>
      match skipBlank rest with
      | ']' :: after => some (.list [], after)
      | _ => (readItems fuel rest).map fun (items, after) => (.list items, after)
    | '\x7b' :: rest =>
      match skipBlank rest with
      | '\x7d' :: after => some (.object [], after)
      | _ => (readMembers fuel rest).map fun (members, after) => (.object members, after)
    | other => (readNumeral other).map fun (n, after) => (.number n, after)

/-- Reads the items of a list that has at least one, and the closing bracket. -/
def readItems : Nat → List Char → Option (List Form × List Char)
  | 0, _ => none
  | fuel + 1, cs => do
    let (item, rest) ← readValue fuel cs
    match skipBlank rest with
    | ']' :: after => return ([item], after)
    | ',' :: more =>
      let (items, after) ← readItems fuel more
      return (item :: items, after)
    | _ => none

/-- Reads the members of an object that has at least one, and the closing brace. -/
def readMembers : Nat → List Char → Option (List (List Part × Form) × List Char)
  | 0, _ => none
  | fuel + 1, cs => do
    let (member, rest) ← readMember fuel cs
    match skipBlank rest with
    | '\x7d' :: after => return ([member], after)
    | ',' :: more =>
      let (members, after) ← readMembers fuel more
      return (member :: members, after)
    | _ => none

def readMember : Nat → List Char → Option ((List Part × Form) × List Char)
  | 0, _ => none
  | fuel + 1, cs =>
    match skipBlank cs with
    | '"' :: rest => do
      let (name, rest) ← readParts rest
      match skipBlank rest with
      | ':' :: rest =>
        let (value, after) ← readValue fuel rest
        return ((name, value), after)
      | _ => none
    | _ => none

end

/-- Reads a whole text, which may have blanks around its value. -/
def read (cs : List Char) : Option Form :=
  match readValue (3 * cs.length + 3) cs with
  | some (form, rest) => if (skipBlank rest).isEmpty then some form else none
  | none => none

end Form

/-- The characters that the parts stand for. A unit that is half of a character must be
followed by its other half. -/
def decodeParts : List Part → Option (List Char)
  | [] => some []
  | .char c :: rest => (decodeParts rest).map (c :: ·)
  | .unit high :: .unit low :: rest =>
    if 0xd800 ≤ high ∧ high < 0xdc00 then
      if 0xdc00 ≤ low ∧ low < 0xe000 then
        (decodeParts rest).map
          (Char.ofNat (0x10000 + 0x400 * (high - 0xd800) + (low - 0xdc00)) :: ·)
      else none
    else if 0xdc00 ≤ high ∧ high < 0xe000 then none
    else (decodeParts (.unit low :: rest)).map (Char.ofNat high :: ·)
  | .unit code :: rest =>
    if 0xd800 ≤ code ∧ code < 0xe000 then none
    else (decodeParts rest).map (Char.ofNat code :: ·)

def decodeText (parts : List Part) : Option String := (decodeParts parts).map String.ofList

end TextTemplate.Json
