import TextTemplate.Catalog.Basic
import TextTemplate.Source.Words

/-!
The tag `with`, which gives names to values for the length of its body. It takes either an
expression, the word `as` and a name, or any number of words of the form `name=expression`.
-/
namespace TextTemplate.Tags

def isNameText (s : String) : Bool := Text.isName s.toList

/-- Splits a word at its first equals sign. -/
def splitEquals (word : String) : Option (String × String) :=
  let cs := word.toList
  match cs.dropWhile (· != '=') with
  | [] => none
  | _ :: rest => some (String.ofList (cs.takeWhile (· != '=')), String.ofList rest)

def readBinding (filters : Expression.FilterTable) (name text : String) :
    Except SyntaxFault (String × Expression) :=
  if isNameText name then (Expression.read filters text).map fun e => (name, e)
  else .error (.withTarget name)

def readAssignment (filters : Expression.FilterTable) (word : String) :
    Except SyntaxFault (String × Expression) :=
  match splitEquals word with
  | none => .error (.withWord word)
  | some (name, text) => readBinding filters name text

def readAssignments (filters : Expression.FilterTable) :
    List String → Except SyntaxFault (List (String × Expression))
  | [] => .ok []
  | word :: rest =>
    match readAssignment filters word with
    | .error fault => .error fault
    | .ok binding => (readAssignments filters rest).map fun bindings => binding :: bindings

/-- Reads the arguments of `with`. -/
def readBindings (filters : Expression.FilterTable) (words : List String) :
    Except SyntaxFault (List (String × Expression)) :=
  match words with
  | [] => .error .withUsage
  | [value, keyword, name] =>
    if keyword = "as" then (readBinding filters name value).map fun binding => [binding]
    else readAssignments filters words
  | _ => readAssignments filters words

def withTag : Tag where
  read reader args := do
    let bindings ← Reading.atTag (readBindings reader.filters (Source.words args))
    let (body, _) ← reader.body ["endwith"]
    pure (.binding bindings body)

end TextTemplate.Tags
