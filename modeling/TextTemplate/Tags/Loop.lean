import TextTemplate.Tags.Binding

/-!
The tag `for`, with its targets divided by commas, the word `in`, the items and perhaps the
word `reversed`. A body after `empty` is rendered when there are no items.
-/
namespace TextTemplate.Tags

/-- What the arguments of a loop say. -/
structure LoopHead where
  targets : List String
  items : String
  reversed : Bool
deriving DecidableEq

/-- Splits the words before the first word `in` from those after it. -/
def splitAtIn : List String → Option (List String × List String)
  | [] => none
  | word :: rest =>
    if word = "in" then some ([], rest)
    else (splitAtIn rest).map fun (before, after) => (word :: before, after)

/-- The targets that words stand for, each without the spaces around it. -/
def splitTargets (words : List String) : List String :=
  (Text.splitOnChar ',' (String.intercalate " " words).toList).map fun cs =>
    String.ofList (Text.trim cs)

def readItemsWord : List String → Option (String × Bool)
  | [items] => some (items, false)
  | [items, keyword] => if keyword = "reversed" then some (items, true) else none
  | _ => none

/-- Reads the arguments of a loop, all but the expression of its items. -/
def readLoopHead (args : String) : Except SyntaxFault LoopHead :=
  match splitAtIn (Source.words args) with
  | none => .error (.forUsage args)
  | some (before, after) =>
    match readItemsWord after with
    | none => .error (.forUsage args)
    | some (items, reversed) =>
      let targets := splitTargets before
      if targets.all isNameText then .ok ⟨targets, items, reversed⟩
      else .error (.forTargets args)

/-- Reads the body after `empty`, if that is the block that ended the loop's body. -/
def readEmpty (reader : TagReader) (stop : Token) : Reading (Option (List Node)) :=
  if stop.tagName? = some "empty" then do
    let (nodes, _) ← reader.body ["endfor"]
    pure (some nodes)
  else pure none

def forTag : Tag where
  read reader args := do
    let head ← Reading.atTag (readLoopHead args)
    let items ← reader.expression head.items
    let (body, stop) ← reader.body ["empty", "endfor"]
    let empty ← readEmpty reader stop
    pure (.loop head.targets items head.reversed body empty)

end TextTemplate.Tags
