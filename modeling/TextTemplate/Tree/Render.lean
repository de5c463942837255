import TextTemplate.Tree.Node

/-!
Rendering a tree. A binding resolves its expressions in the surrounding scope and renders
its body in a new frame. A choice renders the first branch whose condition holds. A loop
renders its body once for each item, each time in a new frame that holds the targets and a
record of the position. What an inclusion renders is up to the caller, who passes a
computation for each name.
-/
namespace TextTemplate.Node

/-- Resolves all expressions in the same scope; the last one of a repeated name counts. -/
def resolveBindings (scope : Scope) : Frame → List (String × Expression) → Except Error Frame
  | frame, [] => .ok frame
  | frame, (name, e) :: rest =>
    match e.resolve scope with
    | .error err => .error err
    | .ok v => resolveBindings scope (Entries.set frame name v) rest

/-- The items that a loop goes through. A map gives its names, or its entries as pairs if
there are several targets, and a text gives its characters. -/
def loopItems (targets : List String) : Value → List Value
  | .list items => items
  | .map entries =>
    if 1 < targets.length then entries.map fun entry => .list [.str entry.1, entry.2]
    else entries.map fun entry => .str entry.1
  | .str s => s.toList.map fun c => .str (String.singleton c)
  | .safe s => s.toList.map fun c => .str (String.singleton c)
  | _ => []

/-- The record of the position `index` among `total` items. -/
def loopRecord (index total : Nat) (parent : Value) : Value :=
  .map
    [("counter", .ofCount (index + 1)),
      ("counter0", .ofCount index),
      ("revcounter", .ofCount (total - index)),
      ("revcounter0", .ofCount (total - index - 1)),
      ("first", .bool (index == 0)),
      ("last", .bool (index + 1 == total)),
      ("parentloop", parent)]

/-- Sets each target to its part; targets without a part become null. -/
def bindParts (frame : Frame) : List String → List Value → Frame
  | [], _ => frame
  | target :: targets, parts =>
    bindParts (Entries.set frame target (Value.ofOption parts.head?)) targets parts.tail

/-- Sets the targets of a loop. A single target takes the whole item, several targets share
out the items of a list. -/
def bindTargets (frame : Frame) (targets : List String) (item : Value) : Frame :=
  match targets, item with
  | [target], _ => Entries.set frame target item
  | _, .list parts => bindParts frame targets parts
  | _, _ => bindParts frame targets [item]

def loopFrame (targets : List String) (index total : Nat) (parent item : Value) : Frame :=
  bindTargets [("forloop", loopRecord index total parent)] targets item

/-- Renders the body for the remaining items, the first of which has the given index. -/
def iterate (body : Render Unit) (targets : List String) (total : Nat) (parent : Value) :
    Nat → List Value → Render Unit
  | _, [] => pure ()
  | index, item :: rest => do
    Render.within (loopFrame targets index total parent item) body
    iterate body targets total parent (index + 1) rest

/-- Renders what a name stands for. A value that is no text names no template. -/
def renderInclusion (fetch : String → Render Unit) (name : Expression) : Render Unit := do
  let v ← Render.evaluate name
  match v.text? with
  | some s => fetch s
  | none => Attempt.fail (.templateNotFound v.text)

variable (fetch : String → Render Unit)

mutual

def render : Node → Render Unit
  | .text s => Render.write .template s
  | .expression e => do
    let v ← Render.evaluate e
    Render.writeValue v
  | .binding names body => do
    let frame ← Render.ofScope fun scope => resolveBindings scope [] names
    Render.within frame (renderAll body)
  | .choice branches otherwise => renderChoice branches (renderOptional otherwise)
  | .loop targets items reversed body empty => do
    let v ← Render.evaluate items
    let found := loopItems targets v
    let ordered := if reversed then found.reverse else found
    if ordered.isEmpty then renderOptional empty
    else do
      let parent ← Render.valueOf "forloop"
      iterate (renderAll body) targets ordered.length parent 0 ordered
  | .comment => pure ()
  | .inclusion name => renderInclusion fetch name
  | .host node bodies => node.render (renderBodies bodies)

def renderAll : List Node → Render Unit
  | [] => pure ()
  | node :: rest => do
    render node
    renderAll rest

def renderOptional : Option (List Node) → Render Unit
  | none => pure ()
  | some nodes => renderAll nodes

/-- Renders the first branch whose condition holds, or else the given computation. -/
def renderChoice : List (Condition × List Node) → Render Unit → Render Unit
  | [], otherwise => otherwise
  | (condition, body) :: rest, otherwise => do
    if ← Render.decide condition then renderAll body else renderChoice rest otherwise

def renderBodies : List (List Node) → List (Render Unit)
  | [] => []
  | body :: rest => renderAll body :: renderBodies rest

end

end TextTemplate.Node
