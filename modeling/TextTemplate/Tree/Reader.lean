import TextTemplate.Source.Token
import TextTemplate.Tree.Node

/-!
The reader of tokens. It holds the tokens still to be read, the tags whose bodies are being
read, innermost first, and the line of the token read last. A fault is blamed on the
innermost of those tags, or on the last token when there is none.
-/
namespace TextTemplate

structure Reader where
  tokens : List Token := []
  openTags : List (String × Nat) := []
  lastLine : Nat := 1

/-- A computation that reads tokens. What it has read stays read when it fails. -/
abbrev Reading (α : Type) : Type := Attempt Reader α

namespace Reader

def hasTokens (r : Reader) : Bool := !r.tokens.isEmpty

/-- The line of the innermost tag being read, or else of the last token. -/
def currentLine (r : Reader) : Nat :=
  match r.openTags with
  | [] => r.lastLine
  | (_, line) :: _ => line

/-- The fault of running out of tokens before one of the expected tags. -/
def unclosedError (r : Reader) (expected : List String) : Error :=
  match r.openTags with
  | [] => .tagSyntax r.lastLine (.unexpectedEnd expected)
  | (name, line) :: _ => .tagSyntax line (.unclosed name expected)

/-- Looks for the block of the given name. The results are whether it was found, the line
of the last token looked at, and the tokens after it. -/
def tokensPast (name : String) (line : Nat) : List Token → Bool × Nat × List Token
  | [] => (false, line, [])
  | t :: rest =>
    if t.tagName? = some name then (true, t.line, rest) else tokensPast name t.line rest

end Reader

namespace Reading

/-- Reads one token. -/
def next : Reading (Option Token) := fun r =>
  match r.tokens with
  | [] => (.ok none, r)
  | t :: rest => (.ok (some t), { r with tokens := rest, lastLine := t.line })

/-- The next token, which stays to be read. -/
def peek : Reading (Option Token) := fun r => (.ok r.tokens.head?, r)

/-- Puts a token before the others. -/
def prepend (t : Token) : Reading Unit := Attempt.modify fun r => { r with tokens := t :: r.tokens }

def failAtTag {α : Type} (fault : SyntaxFault) : Reading α := fun r =>
  (.error (.tagSyntax r.currentLine fault), r)

def failAt {α : Type} (line : Nat) (fault : SyntaxFault) : Reading α :=
  Attempt.fail (.tagSyntax line fault)

def failUnclosed {α : Type} (expected : List String) : Reading α := fun r =>
  (.error (r.unclosedError expected), r)

/-- An outcome whose fault is blamed on the tag being read. -/
def atTag {α : Type} : Except SyntaxFault α → Reading α
  | .ok a => pure a
  | .error fault => failAtTag fault

/-- An outcome whose fault is blamed on a given line. -/
def atLine {α : Type} (line : Nat) : Except SyntaxFault α → Reading α
  | .ok a => pure a
  | .error fault => failAt line fault

/-- Discards the tokens up to and including the block of the given name. -/
def skipPast (name : String) : Reading Unit := fun r =>
  let (found, line, rest) := Reader.tokensPast name r.lastLine r.tokens
  let after := { r with tokens := rest, lastLine := line }
  if found then (.ok (), after) else (.error (after.unclosedError [name]), after)

/-- Reads with a tag opened; afterwards the open tags are again those from before. -/
def inTag {α : Type} (name : String) (line : Nat) (m : Reading α) : Reading α := fun r =>
  let (outcome, after) := m { r with openTags := (name, line) :: r.openTags }
  (outcome, { after with openTags := r.openTags })

end Reading

end TextTemplate
