import TextTemplate.Template.Basic

/-!
Templates whose content can be replaced. A handle stands for the identity of such a
template; all copies of a handle see the same content. Replacing the content keeps the
name, and a text that cannot be read replaces nothing.
-/
namespace TextTemplate

/-- The identity of a replaceable template: its place in the store. -/
structure Handle where
  index : Nat
deriving DecidableEq

/-- The current content of all replaceable templates, in the order of their making. -/
structure TemplateStore where
  contents : List Template := []

namespace TemplateStore

def get? (store : TemplateStore) (handle : Handle) : Option Template :=
  store.contents[handle.index]?

/-- Makes a replaceable template with an identity of its own. -/
def add (store : TemplateStore) (template : Template) : Handle × TemplateStore :=
  (⟨store.contents.length⟩, { contents := store.contents ++ [template] })

/-- Gives the template of a handle new nodes. -/
def replace (store : TemplateStore) (handle : Handle) (nodes : List Node) : TemplateStore :=
  { contents := store.contents.modify handle.index fun t => { t with nodes := nodes } }

/-- Reads a text and makes it the content of a handle's template. -/
def setContent (store : TemplateStore) (handle : Handle) (catalog : Catalog)
    (trimBlocks : Bool) (source : String) : Except Error TemplateStore :=
  (catalog.compile trimBlocks source).map fun nodes => store.replace handle nodes

end TemplateStore

end TextTemplate
