import TextTemplate.Source.Span
import TextTemplate.Text.Trim

/-!
Tokens. A token is a span that a template is read from: plain text with all its
characters, or a tag with its body trimmed. It knows the line on which its span starts.
The first word of a block is the name of its tag.
-/
namespace TextTemplate

open Source Text

inductive TokenKind where
  | text
  | tag (kind : TagKind)
deriving DecidableEq

structure Token where
  kind : TokenKind
  content : String
  line : Nat
deriving DecidableEq

namespace Token

/-- The first word of the content, and the rest without the spaces around it. -/
def splitTag (t : Token) : String × String :=
  let cs := t.content.toList
  (String.ofList (cs.takeWhile fun c => !isSpace c),
    String.ofList (trim (cs.dropWhile fun c => !isSpace c)))

/-- The name of a block's tag; other tokens have none. -/
def tagName? (t : Token) : Option String :=
  if t.kind = .tag .block then some t.splitTag.1 else none

def newlines (cs : List Char) : Nat := cs.count '\n'

/-- The tokens of the spans, the first of which starts on the given line. -/
def ofSpans (line : Nat) : List Span → List Token
  | [] => []
  | .text cs :: rest => ⟨.text, String.ofList cs, line⟩ :: ofSpans (line + newlines cs) rest
  | .tag kind body :: rest =>
    ⟨.tag kind, String.ofList (trim body), line⟩ :: ofSpans (line + newlines body) rest
  | .lineBreak cs :: rest => ofSpans (line + newlines cs) rest

/-- The tokens of a template's text. With `trimBlocks`, the line break directly after a
block tag belongs to no token. -/
def scan (trimBlocks : Bool) (source : String) : List Token :=
  ofSpans 1 (spans trimBlocks source.toList)

end Token

end TextTemplate
