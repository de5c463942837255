/-!
Quotation marks. Reading a text from left to right, a single or double quote outside of
quotes opens a quotation, the same mark closes it, and a backslash inside protects the
character after it. Whoever looks for a separator or a closing mark heeds only those that
stand outside.
-/
namespace TextTemplate.Source

/-- Where a position stands, after the characters before it have been read. -/
inductive Quotation where
  | outside
  | inside (mark : Char)
  | escaped (mark : Char)
deriving DecidableEq

namespace Quotation

def isQuote (c : Char) : Bool := c == '"' || c == '\x27'

def next : Quotation → Char → Quotation
  | .outside, c => if isQuote c then .inside c else .outside
  | .inside mark, c =>
    if c = '\\' then .escaped mark else if c = mark then .outside else .inside mark
  | .escaped mark, _ => .inside mark

/-- Where the position after a whole text stands. -/
def after (state : Quotation) (cs : List Char) : Quotation := cs.foldl next state

theorem after_append (state : Quotation) (a b : List Char) :
    state.after (a ++ b) = (state.after a).after b :=
  List.foldl_append

end Quotation

/-- Every quotation of the text is closed. -/
def closesQuotes (cs : List Char) : Prop := Quotation.outside.after cs = .outside

/-- Splits at the separators outside of quotations, into the first piece and the others. -/
def splitFrom (sep : Char) (state : Quotation) : List Char → List Char × List (List Char)
  | [] => ([], [])
  | c :: rest =>
    let (piece, pieces) := splitFrom sep (state.next c) rest
    if state = .outside ∧ c = sep then ([], piece :: pieces) else (c :: piece, pieces)

def splitUnquoted (sep : Char) (cs : List Char) : List Char × List (List Char) :=
  splitFrom sep .outside cs

/-- Splits at the first separator outside of quotations, if there is one. -/
def splitOnceFrom (sep : Char) (state : Quotation) :
    List Char → Option (List Char × List Char)
  | [] => none
  | c :: rest =>
    if state = .outside ∧ c = sep then some ([], rest)
    else (splitOnceFrom sep (state.next c) rest).map fun (head, tail) => (c :: head, tail)

def splitUnquotedOnce (sep : Char) (cs : List Char) : Option (List Char × List Char) :=
  splitOnceFrom sep .outside cs

end TextTemplate.Source
