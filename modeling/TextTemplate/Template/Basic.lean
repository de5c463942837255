import TextTemplate.Tree.Reading
import TextTemplate.Tree.Render

/-!
Templates. A template is the tree of a text under the name by which it was asked for.
-/
namespace TextTemplate

structure Template where
  name : String
  nodes : List Node

namespace Template

/-- Reads a template's text with the tags and filters of a catalog. -/
def compile (catalog : Catalog) (trimBlocks : Bool) (name source : String) :
    Except Error Template :=
  (catalog.compile trimBlocks source).map fun nodes => ⟨name, nodes⟩

end Template

end TextTemplate
