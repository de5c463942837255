import TextTemplate.Tree.Node

/-!
Outlines of trees: one line that spells out a node with all its parts.
-/
namespace TextTemplate

namespace Comparison

def outline : Comparison → String
  | .equal => "Eq"
  | .notEqual => "NotEq"
  | .isIn => "In"
  | .notIn => "NotIn"

end Comparison

namespace Condition

def operandOutline (e : Expression) : String := Outline.application "Operand" [e.outline]

def outline : Condition → String
  | .operand e => operandOutline e
  | .compare left op right =>
    Outline.application "Compare" [operandOutline left, op.outline, operandOutline right]
  | .not c => Outline.application "Not" [c.outline]
  | .and left right => Outline.application "Logic" [left.outline, "And", right.outline]
  | .or left right => Outline.application "Logic" [left.outline, "Or", right.outline]

end Condition

namespace Node

def nodesOutline (nodes : List String) : String :=
  Outline.record "NodeList" [("nodes", Outline.list nodes)]

def bindingOutline (binding : String × Expression) : String :=
  "(" ++ Text.quote binding.1 ++ ", " ++ binding.2.outline ++ ")"

mutual

def outline : Node → String
  | .text s => Outline.record "TextNode" [("text", Text.quote s)]
  | .expression e => Outline.record "VariableNode" [("expr", e.outline)]
  | .binding names body =>
    Outline.record "WithNode"
      [("bindings", Outline.list (names.map bindingOutline)),
        ("body", nodesOutline (outlines body))]
  | .choice branches otherwise =>
    Outline.record "IfNode"
      [("branches", Outline.list (branchOutlines branches)),
        ("else_body", Outline.optional (bodyOutline otherwise))]
  | .loop targets items reversed body empty =>
    Outline.record "ForNode"
      [("targets", Outline.list (targets.map Text.quote)),
        ("iterable", items.outline),
        ("reversed", Outline.bool reversed),
        ("body", nodesOutline (outlines body)),
        ("empty", Outline.optional (bodyOutline empty))]
  | .comment => "CommentNode"
  | .inclusion name => Outline.record "IncludeNode" [("name", name.outline)]
  | .host node bodies => node.outline (bodyOutlines bodies)

def outlines : List Node → List String
  | [] => []
  | node :: rest => outline node :: outlines rest

def bodyOutline : Option (List Node) → Option String
  | none => none
  | some nodes => some (nodesOutline (outlines nodes))

def branchOutlines : List (Condition × List Node) → List String
  | [] => []
  | (condition, body) :: rest =>
    ("(" ++ condition.outline ++ ", " ++ nodesOutline (outlines body) ++ ")") ::
      branchOutlines rest

def bodyOutlines : List (List Node) → List String
  | [] => []
  | body :: rest => nodesOutline (outlines body) :: bodyOutlines rest

end

end Node

end TextTemplate
