import TextTemplate.Text.Class
import TextTemplate.Unicode.Extend
import TextTemplate.Unicode.Unprintable

/-!
Quoted text, the form in which descriptions of values and trees show a string: double
quotes around it, short escapes for the quote, the backslash and the common controls,
and the code point in hexadecimal for a character that cannot be shown on its own.
-/
namespace TextTemplate.Text

open Unicode

/-- The character has a visible form of its own. -/
def isShowable (c : Char) : Bool :=
  if isAscii c then decide (0x20 ≤ c.toNat) && decide (c.toNat < 0x7f)
  else !(inRanges unprintableRanges c.toNat || inRanges extendRanges c.toNat)

/-- The code point between braces, after a backslash and the letter u. -/
def codeEscape (c : Char) : List Char :=
  ['\\', 'u', '\x7b'] ++ Nat.toDigits 16 c.toNat ++ ['\x7d']

def quoteChar (c : Char) : List Char :=
  if c = '"' then ['\\', '"']
  else if c = '\\' then ['\\', '\\']
  else if c = '\n' then ['\\', 'n']
  else if c = '\t' then ['\\', 't']
  else if c = '\r' then ['\\', 'r']
  else if c = '\x00' then ['\\', '0']
  else if isShowable c then [c]
  else codeEscape c

def quote (s : String) : String :=
  String.ofList ('"' :: s.toList.flatMap quoteChar ++ ['"'])

end TextTemplate.Text
