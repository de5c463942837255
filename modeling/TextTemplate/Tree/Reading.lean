import TextTemplate.Catalog.Basic

/-!
Reading a tree from tokens. Text and expressions become nodes, comments become nothing, and
a block is handed to the tag of its name, unless the name is one that the surrounding tag
is waiting for. A tag may put tokens back; the reader therefore works on a budget, which
every token uses up and which is never exhausted as long as each block puts back at most
one token that is no block.
-/
namespace TextTemplate

namespace Reader

/-- The share of a token in the budget. -/
def tokenCost (t : Token) : Nat := if t.kind = .tag .block then 2 else 1

def tokensCost : List Token → Nat
  | [] => 0
  | t :: rest => tokenCost t + tokensCost rest

/-- A budget that suffices for the tokens at hand. -/
def budget (r : Reader) : Nat := tokensCost r.tokens + 1

end Reader

namespace Catalog

/-- The node of an expression's token. -/
def readExpression (catalog : Catalog) (t : Token) : Reading Node :=
  if t.content.isEmpty then Reading.failAt t.line .emptyVariable
  else do
    let e ← Reading.atLine t.line (Expression.read catalog.filter? t.content)
    pure (.expression e)

/-- The name is that of a block that ends something. -/
def namesEnd (name : String) : Bool := ['e', 'n', 'd'].isPrefixOf name.toList

/-- A block that no tag is registered for. If it looks like the end of some tag, then the
innermost tag has not been closed. -/
def failUnknown (name : String) (line : Nat) (stops : List String) :
    Reading (List Node × Option Token) := fun r =>
  if namesEnd name && !r.openTags.isEmpty then Reading.failUnclosed stops r
  else Reading.failAt line (.unknownTag name) r

/-- Puts a node before the nodes read next. -/
def addNode (node : Node) (rest : Reading (List Node × Option Token)) :
    Reading (List Node × Option Token) := do
  let (nodes, stop) ← rest
  pure (node :: nodes, stop)

/-- Reads items up to a block with one of the given names, or to the end of the tokens. -/
def readItems (catalog : Catalog) : Nat → List String → Reading (List Node × Option Token)
  | 0, _ => Reading.failAtTag .endless
  | budget + 1, stops => do
    match ← Reading.next with
    | none => pure ([], none)
    | some t =>
      match t.kind with
      | .text => addNode (.text t.content) (readItems catalog budget stops)
      | .tag .comment => readItems catalog budget stops
      | .tag .expression => do
        let node ← catalog.readExpression t
        addNode node (readItems catalog budget stops)
      | .tag .block =>
        let name := t.splitTag.1
        if name.isEmpty then Reading.failAt t.line .emptyBlock
        else if name ∈ stops then pure ([], some t)
        else
          match catalog.tag? name with
          | none => failUnknown name t.line stops
          | some tag => do
            let reader : TagReader :=
              { filters := catalog.filter?
                items := fun inner => readItems catalog budget inner
                budget := budget }
            let node ← Reading.inTag name t.line (tag.read reader t.splitTag.2)
            addNode node (readItems catalog budget stops)

/-- What the tags of a catalog see when nothing is open. -/
def reader (catalog : Catalog) (budget : Nat) : TagReader :=
  { filters := catalog.filter?
    items := catalog.readItems budget
    budget := budget }

/-- Reads all tokens that are left. -/
def readAll (catalog : Catalog) : Reading (List Node) := fun r =>
  (do
    let (nodes, _) ← catalog.readItems r.budget []
    pure nodes : Reading (List Node)) r

/-- Reads up to a block with one of the given names, which must come. -/
def readUntil (catalog : Catalog) (stops : List String) : Reading (List Node × Token) :=
  fun r => (catalog.reader r.budget).body stops r

/-- Reads an expression that stands outside of the tokens. -/
def readText (catalog : Catalog) (text : String) : Reading Expression :=
  Reading.atTag (Expression.read catalog.filter? text)

/-- The tree of a template's text. -/
def compile (catalog : Catalog) (trimBlocks : Bool) (source : String) :
    Except Error (List Node) :=
  (catalog.readAll { tokens := Token.scan trimBlocks source }).1

end Catalog

end TextTemplate
