import TextTemplate.Catalog.Basic
import TextTemplate.Source.Words

/-!
The tag `if`. Its first branch and each `elif` have a condition of their own, and an `else`
without arguments may hold what is left over.
-/
namespace TextTemplate.Tags

def readCondition (reader : TagReader) (args : String) : Reading Condition :=
  Reading.atTag (Condition.read reader.filters (Source.words args))

/-- Reads the body of a branch and the branches after it. The branches before it are passed
in order. -/
def readBranches (reader : TagReader) :
    Nat → List (Condition × List Node) → Condition → Reading Node
  | 0, _, _ => Reading.failAtTag .endless
  | budget + 1, before, condition => do
    let (body, stop) ← reader.body ["elif", "else", "endif"]
    let branches := before ++ [(condition, body)]
    let (name, args) := stop.splitTag
    if name = "elif" then do
      let condition ← readCondition reader args
      readBranches reader budget branches condition
    else if name = "else" then
      if args.isEmpty then do
        let (otherwise, _) ← reader.body ["endif"]
        pure (.choice branches (some otherwise))
      else Reading.failAtTag .elseArguments
    else pure (.choice branches none)

def ifTag : Tag where
  read reader args := do
    let condition ← readCondition reader args
    readBranches reader (reader.budget + 1) [] condition

end TextTemplate.Tags
