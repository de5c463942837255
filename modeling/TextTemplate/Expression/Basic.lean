import TextTemplate.Expression.Filter
import TextTemplate.Expression.Variable

/-!
Expressions: a variable followed by filters. Bars divide the parts and a colon sets off an
argument; both count only outside of quotations. Filters apply from left to right, each to
the value that the one before it gave.
-/
namespace TextTemplate

/-- One application of a filter, which was looked up when the expression was read. -/
structure FilterCall where
  name : String
  filter : Filter
  argument : Option Variable

structure Expression where
  source : String
  head : Variable
  calls : List FilterCall

namespace Expression

open Text Source

/-- Where the filters of an expression are looked up. -/
abbrev FilterTable := String → Option Filter

/-- Splits a filter's part into its name and the text of its argument. -/
def splitCall (part : List Char) : List Char × Option (List Char) :=
  match splitUnquotedOnce ':' part with
  | some (name, argument) => (trim name, some argument)
  | none => (trim part, none)

def readArgument (name : String) : Option (List Char) → Except SyntaxFault (Option Variable)
  | none => .ok none
  | some cs =>
    match Variable.read cs with
    | .ok v => .ok (some v)
    | .error fault => .error (.filterArgument name fault)

/-- Reads one part after a bar; `text` is the whole expression. -/
def readCall (filters : FilterTable) (text part : List Char) : Except SyntaxFault FilterCall :=
  let (nameChars, argumentChars) := splitCall part
  let name := String.ofList nameChars
  if isName nameChars then
    match filters name with
    | none => .error (.unknownFilter name)
    | some filter => (readArgument name argumentChars).map fun argument => ⟨name, filter, argument⟩
  else .error (.filterName name (String.ofList (trim text)))

def readHead (cs : List Char) : Except SyntaxFault Variable :=
  match Variable.read cs with
  | .ok v => .ok v
  | .error fault => .error (.badVariable fault)

def readChars (filters : FilterTable) (cs : List Char) : Except SyntaxFault Expression :=
  let (head, parts) := splitUnquoted '|' cs
  match readHead head with
  | .error fault => .error fault
  | .ok v =>
    match parts.mapM (readCall filters cs) with
    | .error fault => .error fault
    | .ok calls => .ok ⟨String.ofList (trim cs), v, calls⟩

def read (filters : FilterTable) (text : String) : Except SyntaxFault Expression :=
  readChars filters text.toList

def resolveArgument (scope : Scope) : Option Variable → Except Error (Option Value)
  | none => .ok none
  | some v => (v.resolve scope).map some

/-- Applies one filter; its argument is resolved first. -/
def applyCall (scope : Scope) (input : Value) (call : FilterCall) : Except Error Value :=
  match resolveArgument scope call.argument with
  | .error e => .error e
  | .ok argument => call.filter.run call.name input argument scope.autoescape

def applyCalls (scope : Scope) (input : Value) : List FilterCall → Except Error Value
  | [] => .ok input
  | call :: rest =>
    match applyCall scope input call with
    | .error e => .error e
    | .ok output => applyCalls scope output rest

/-- The value of an expression in a scope. -/
def resolve (scope : Scope) (e : Expression) : Except Error Value :=
  match e.head.resolve scope with
  | .error err => .error err
  | .ok value => applyCalls scope value e.calls

def filterNames (e : Expression) : List String := e.calls.map (·.name)

def outline (e : Expression) : String :=
  Outline.record "FilterExpression"
    [("source", Text.quote e.source),
      ("variable", e.head.outline),
      ("filters", Outline.list (e.filterNames.map Text.quote))]

end Expression

end TextTemplate
