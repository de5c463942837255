import TextTemplate.Decimal.FloatText
import TextTemplate.Error
import TextTemplate.Scope
import TextTemplate.Source.Quotation
import TextTemplate.Text.Trim
import TextTemplate.Value.Lookup

/-!
Variables: what an expression starts from, and what a filter takes as its argument. A
quoted text or a number stands for itself, and a quoted text is safe, since the template's
author wrote it. Anything else is a dotted path, whose first name the scope looks up and
whose further names select parts of the value so far.
-/
namespace TextTemplate

inductive Variable where
  | literal (v : Value)
  | path (names : List String)

namespace Variable

open Text Decimal

/-- The character that a backslash and this one stand for. -/
def unescape (c : Char) : Char :=
  if c = 'n' then '\n' else if c = 't' then '\t' else c

/-- Reads a quoted text up to its closing mark, and returns what follows it. -/
def readQuoted (mark : Char) : List Char → Option (List Char × List Char)
  | [] => none
  | c :: rest =>
    if c = mark then some ([], rest)
    else if c = '\\' then
      match rest with
      | [] => none
      | e :: rest => (readQuoted mark rest).map fun (text, after) => (unescape e :: text, after)
    else (readQuoted mark rest).map fun (text, after) => (c :: text, after)

/-- Reads a text that begins with a quotation mark. -/
def readText (mark : Char) (rest : List Char) : Except VariableFault Variable :=
  match readQuoted mark rest with
  | none => .error (.unterminated (String.ofList (mark :: rest)))
  | some (text, after) =>
    if after.isEmpty then .ok (.literal (.safe (String.ofList text)))
    else .error (.trailing (String.ofList after))

/-- A number starts with a digit, a sign or a point. Integers out of range are read as
floating-point numbers. -/
def readNumber (cs : List Char) : Option Value :=
  match cs with
  | [] => none
  | c :: _ =>
    if c.isDigit || c == '-' || c == '+' || c == '.' then
      match readInt cs with
      | some n => some (.int n)
      | none => (readFloat cs).map .float
    else none

/-- Checks one name of the path `text`. -/
def readName (text name : List Char) : Except VariableFault String :=
  if name.isEmpty then .error (.emptySegment (String.ofList text))
  else
    match name.find? fun c => !isWordChar c with
    | some c => .error (.badCharacter c (String.ofList text))
    | none => .ok (String.ofList name)

def readPath (cs : List Char) : Except VariableFault Variable :=
  ((splitOnChar '.' cs).mapM (readName cs)).map .path

/-- Reads a text that has no spaces around it. -/
def readTrimmed (cs : List Char) : Except VariableFault Variable :=
  match cs with
  | [] => .error .empty
  | c :: rest =>
    if Source.Quotation.isQuote c then readText c rest
    else
      match readNumber cs with
      | some v => .ok (.literal v)
      | none => readPath cs

def read (cs : List Char) : Except VariableFault Variable := readTrimmed (trim cs)

/-- The value that a scope gives to a variable, if every name of a path leads on. -/
def resolve? (scope : Scope) : Variable → Option Value
  | .literal v => some v
  | .path [] => none
  | .path (name :: rest) => (scope.lookup name).bind fun v => v.follow rest

/-- The text of a literal, or the path. -/
def text : Variable → String
  | .literal v => v.text
  | .path names => String.intercalate "." names

/-- The value in a scope. A path that leads nowhere is null, or an error when the scope is
strict. -/
def resolve (scope : Scope) (v : Variable) : Except Error Value :=
  match v.resolve? scope with
  | some value => .ok value
  | none => if scope.strict then .error (.missingVariable v.text) else .ok .null

def outline : Variable → String
  | .literal v => Outline.application "Literal" [v.outline]
  | .path names => Outline.application "Path" [Outline.list (names.map Text.quote)]

end Variable

end TextTemplate
