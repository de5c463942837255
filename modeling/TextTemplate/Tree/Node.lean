import TextTemplate.Tree.Rendering

/-!
The tree of a template. Each node is one item of the template's text; those with a body
hold the nodes of the body. A host program may add nodes of its own: such a node says how
it is rendered once its bodies are computations, and how it is described.
-/
namespace TextTemplate

/-- A node of the host program, apart from its bodies. -/
structure HostNode where
  render : List (Render Unit) → Render Unit
  outline : List String → String

inductive Node where
  | text (s : String)
  | expression (e : Expression)
  | binding (names : List (String × Expression)) (body : List Node)
  | choice (branches : List (Condition × List Node)) (otherwise : Option (List Node))
  | loop (targets : List String) (items : Expression) (reversed : Bool) (body : List Node)
      (empty : Option (List Node))
  | comment
  | inclusion (name : Expression)
  | host (node : HostNode) (bodies : List (List Node))

end TextTemplate
