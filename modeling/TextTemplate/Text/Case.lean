import TextTemplate.Text.Class
import TextTemplate.Unicode.CaseMapping

/-!
Case conversion with full mappings: one letter may become several characters. Lowering
a whole text also chooses between the two small sigmas, the final one standing where a
word ends. Two different functions give title case: one lowers the rest of each word,
the other leaves it alone and counts the underscore as part of a word.
-/
namespace TextTemplate.Text

open Unicode

def upperChar (c : Char) : List Char :=
  if isAscii c then [c.toUpper] else (mapCase upperExpansions upperRuns c.toNat).map Char.ofNat

def lowerChar (c : Char) : List Char :=
  if isAscii c then [c.toLower] else (mapCase lowerExpansions lowerRuns c.toNat).map Char.ofNat

def upper (cs : List Char) : List Char := cs.flatMap upperChar

/-- After the characters that case looks through, a cased letter comes next. -/
def reachesCased (cs : List Char) : Bool :=
  match cs.dropWhile isCaseIgnorable with
  | [] => false
  | c :: _ => isCased c

/-- A capital sigma between `before`, nearest character first, and `after` ends a word. -/
def endsWord (before after : List Char) : Bool := reachesCased before && !reachesCased after

/-- Lowers the remaining characters; `before` holds those already seen, nearest first. -/
def lowerAfter (before : List Char) : List Char → List Char
  | [] => []
  | c :: rest =>
    let lowered :=
      if c = 'Σ' then [if endsWord before rest then 'ς' else 'σ'] else lowerChar c
    lowered ++ lowerAfter (c :: before) rest

def lower (cs : List Char) : List Char := lowerAfter [] cs

def capitalize : List Char → List Char
  | [] => []
  | c :: rest => upperChar c ++ rest

def swapCase (cs : List Char) : List Char :=
  cs.flatMap fun c => if isUppercase c then lowerChar c else upperChar c

/-- Marks the characters that follow no word character and are one themselves. -/
def wordStartsAfter (inWord : Bool) : List Char → List Char
  | [] => []
  | c :: rest =>
    if isWordChar c && !inWord then c :: wordStartsAfter true rest
    else wordStartsAfter (isWordChar c) rest

/-- The characters that begin a word. -/
def wordStarts (cs : List Char) : List Char := wordStartsAfter false cs

def capitalizeWordsAfter (inWord : Bool) : List Char → List Char
  | [] => []
  | c :: rest =>
    (if isWordChar c && !inWord then upperChar c else [c]) ++
      capitalizeWordsAfter (isWordChar c) rest

/-- Capitalizes the first character of every word and leaves the rest as it is. -/
def capitalizeWords (cs : List Char) : List Char := capitalizeWordsAfter false cs

/-- No word begins with a small ASCII letter. -/
def isTitled (cs : List Char) : Bool := !(wordStarts cs).any Char.isLower

def titleCaseAfter (inWord : Bool) : List Char → List Char
  | [] => []
  | c :: rest =>
    (if isAlphanumeric c then (if inWord then lowerChar c else upperChar c) else [c]) ++
      titleCaseAfter (isAlphanumeric c) rest

/-- Capitalizes the first character of every run of letters and digits, lowers the rest. -/
def titleCase (cs : List Char) : List Char := titleCaseAfter false cs

end TextTemplate.Text
