import Mathlib.Data.List.Forall2
import TextTemplate.Proofs.RenderSteps

/-!
Renderings side by side. A relation between computations that every step of a rendering has
to itself, and that passes on to sequences and to what runs within a frame, holds between
the renderings of a tree with different inclusions, if it holds between the inclusions. The
steps may be restricted to those whose expressions are of a certain kind.
-/
namespace TextTemplate

def Condition.operands : Condition → List Expression
  | .operand e => [e]
  | .compare left _ right => [left, right]
  | .not c => c.operands
  | .and left right => left.operands ++ right.operands
  | .or left right => left.operands ++ right.operands

def Node.expressions : Node → List Expression
  | .expression e => [e]
  | .binding names _ => names.map (·.2)
  | .choice branches _ => branches.flatMap fun branch => branch.1.operands
  | .loop _ items _ _ _ => [items]
  | .inclusion name => [name]
  | _ => []

/-- The steps of a rendering are related to themselves as long as their expressions are of the
given kind, and the relation passes on to what is put together from them. -/
structure Render.Parallel (E : Expression → Prop) (R : (α : Type) → Render α → Render α → Prop) :
    Prop where
  pure : ∀ {α : Type} (a : α), R α (Pure.pure a) (Pure.pure a)
  fail : ∀ {α : Type} (e : Error), R α (Attempt.fail e) (Attempt.fail e)
  write : ∀ (origin : Origin) (text : String),
    R Unit (Render.write origin text) (Render.write origin text)
  writeValue : ∀ v : Value, R Unit (Render.writeValue v) (Render.writeValue v)
  evaluate : ∀ e : Expression, E e → R Value (Render.evaluate e) (Render.evaluate e)
  decide : ∀ c : Condition, (∀ e ∈ c.operands, E e) →
    R Bool (Render.decide c) (Render.decide c)
  parent : R Value (Render.valueOf "forloop") (Render.valueOf "forloop")
  bindings : ∀ names : List (String × Expression), (∀ binding ∈ names, E binding.2) →
    R Frame (Render.ofScope fun scope => Node.resolveBindings scope [] names)
      (Render.ofScope fun scope => Node.resolveBindings scope [] names)
  bind : ∀ {α β : Type} {m m' : Render α} {f f' : α → Render β}, R α m m' →
    (∀ a, R β (f a) (f' a)) → R β (m >>= f) (m' >>= f')
  within : ∀ (frame : Frame) {m m' : Render Unit}, R Unit m m' →
    R Unit (Render.within frame m) (Render.within frame m')

namespace Node

/-- What the node includes is related, and a node of the host program is related if its bodies
are. -/
def IncludesAlike (R : (α : Type) → Render α → Render α → Prop)
    (fetch fetch' : String → Render Unit) : Node → Prop
  | .inclusion _ => ∀ name, R Unit (fetch name) (fetch' name)
  | .host node _ => ∀ bodies bodies' : List (Render Unit),
      List.Forall₂ (R Unit) bodies bodies' → R Unit (node.render bodies) (node.render bodies')
  | _ => True

theorem includesAlike_of_isStandard {R : (α : Type) → Render α → Render α → Prop}
    {fetch fetch' : String → Render Unit} (hfetch : ∀ name, R Unit (fetch name) (fetch' name))
    (node : Node) (hnode : node.IsStandard) : node.IncludesAlike R fetch fetch' := by
  cases node with
  | inclusion name => exact hfetch
  | host node bodies => exact hnode.elim
  | _ => trivial

end Node

namespace Render.Parallel

variable {E : Expression → Prop} {R : (α : Type) → Render α → Render α → Prop}
  {fetch fetch' : String → Render Unit}

/-- The passes of a loop are related if its body is, by induction on the items. -/
theorem iterate (hR : Parallel E R) {body body' : Render Unit} (hbody : R Unit body body')
    (targets : List String) (total : Nat) (parent : Value) (index : Nat) (items : List Value) :
    R Unit (Node.iterate body targets total parent index items)
      (Node.iterate body' targets total parent index items) := by
  induction items generalizing index with
  | nil => exact hR.pure ()
  | cons item items ih =>
    have hitem := hR.within (Node.loopFrame targets index total parent item) hbody
    exact hR.bind hitem fun _ => ih (index + 1)

theorem renderInclusion (hR : Parallel E R) (hfetch : ∀ name, R Unit (fetch name) (fetch' name))
    {name : Expression} (hname : E name) :
    R Unit (Node.renderInclusion fetch name) (Node.renderInclusion fetch' name) := by
  refine hR.bind (hR.evaluate name hname) ?_
  intro v
  cases v.text? with
  | some s => exact hfetch s
  | none => exact hR.fail _

/-- Nodes in turn are related if each is. -/
theorem renderAll (hR : Parallel E R) {nodes : List Node}
    (h : ∀ node ∈ nodes, R Unit (Node.render fetch node) (Node.render fetch' node)) :
    R Unit (Node.renderAll fetch nodes) (Node.renderAll fetch' nodes) := by
  induction nodes with
  | nil => exact hR.pure ()
  | cons node nodes ih =>
    obtain ⟨hnode, hnodes⟩ := List.forall_mem_cons.1 h
    exact hR.bind hnode fun _ => ih hnodes

theorem renderOptional (hR : Parallel E R) {otherwise : Option (List Node)}
    (h : ∀ body ∈ otherwise, ∀ node ∈ body,
      R Unit (Node.render fetch node) (Node.render fetch' node)) :
    R Unit (Node.renderOptional fetch otherwise) (Node.renderOptional fetch' otherwise) := by
  cases otherwise with
  | none => exact hR.pure ()
  | some body => exact hR.renderAll (h body rfl)

theorem renderBodies (hR : Parallel E R) {bodies : List (List Node)}
    (h : ∀ body ∈ bodies, ∀ node ∈ body,
      R Unit (Node.render fetch node) (Node.render fetch' node)) :
    List.Forall₂ (R Unit) (Node.renderBodies fetch bodies) (Node.renderBodies fetch' bodies) := by
  induction bodies with
  | nil => exact .nil
  | cons body bodies ih =>
    obtain ⟨hbody, hbodies⟩ := List.forall_mem_cons.1 h
    exact .cons (hR.renderAll hbody) (ih hbodies)

def BranchAlike (E : Expression → Prop) (R : (α : Type) → Render α → Render α → Prop)
    (fetch fetch' : String → Render Unit) (branch branch' : Condition × List Node) : Prop :=
  branch.1 = branch'.1 ∧ (∀ e ∈ branch.1.operands, E e) ∧
    R Unit (Node.renderAll fetch branch.2) (Node.renderAll fetch' branch'.2)

/-- A choice is related to one with the same conditions and related bodies. -/
theorem renderChoice (hR : Parallel E R) {branches branches' : List (Condition × List Node)}
    {otherwise otherwise' : Render Unit}
    (h : List.Forall₂ (BranchAlike E R fetch fetch') branches branches')
    (hother : R Unit otherwise otherwise') :
    R Unit (Node.renderChoice fetch branches otherwise)
      (Node.renderChoice fetch' branches' otherwise') := by
  induction h with
  | nil => exact hother
  | @cons branch branch' _ _ hbranch _ ih =>
    obtain ⟨condition, body⟩ := branch
    obtain ⟨condition', body'⟩ := branch'
    obtain ⟨rfl, hcondition, hbody⟩ := hbranch
    refine hR.bind (hR.decide condition hcondition) ?_
    intro holds
    cases holds with
    | true => exact hbody
    | false => exact ih

theorem renderBinding (hR : Parallel E R) {names : List (String × Expression)}
    {body body' : List Node} (hnames : ∀ binding ∈ names, E binding.2)
    (hbody : R Unit (Node.renderAll fetch body) (Node.renderAll fetch' body')) :
    R Unit (Node.render fetch (.binding names body)) (Node.render fetch' (.binding names body')) :=
  hR.bind (hR.bindings names hnames) fun frame => hR.within frame hbody

/-- A loop is related to one over the same items with a related body. -/
theorem renderLoop (hR : Parallel E R) {targets : List String} {items : Expression}
    {reversed : Bool} {body body' : List Node} {empty empty' : Option (List Node)}
    (hitems : E items)
    (hbody : R Unit (Node.renderAll fetch body) (Node.renderAll fetch' body'))
    (hempty : R Unit (Node.renderOptional fetch empty) (Node.renderOptional fetch' empty')) :
    R Unit (Node.render fetch (.loop targets items reversed body empty))
      (Node.render fetch' (.loop targets items reversed body' empty')) := by
  refine hR.bind (hR.evaluate items hitems) ?_
  intro v
  change R Unit (if (Node.orderedItems targets reversed v).isEmpty = true then _ else _)
    (if (Node.orderedItems targets reversed v).isEmpty = true then _ else _)
  split
  · exact hempty
  · exact hR.bind hR.parent fun parent => hR.iterate hbody _ _ _ _ _

/-- A tree whose inclusions are related and whose expressions are of the kind is related. -/
theorem render (hR : Parallel E R) (node : Node)
    (hnode : node.Every (Node.IncludesAlike R fetch fetch'))
    (hexpressions : node.Every fun node => ∀ e ∈ node.expressions, E e) :
    R Unit (Node.render fetch node) (Node.render fetch' node) := by
  induction node with
  | text s => exact hR.write _ _
  | expression e =>
    have he : E e := hexpressions.here e (List.mem_singleton_self e)
    exact hR.bind (hR.evaluate e he) hR.writeValue
  | binding names body ih =>
    have hnames := List.forall_mem_map.1 hexpressions.here
    exact hR.renderBinding hnames (hR.renderAll fun child hmem =>
      ih child hmem (hnode.binding_body child hmem) (hexpressions.binding_body child hmem))
  | choice branches otherwise ihBranches ihOtherwise =>
    refine hR.renderChoice ?_ (hR.renderOptional ?_)
    · rw [List.forall₂_same]
      intro branch hbranch
      refine ⟨rfl, ?_, hR.renderAll ?_⟩
      · intro e he
        exact hexpressions.here e (List.mem_flatMap_of_mem hbranch he)
      · intro child hmem
        exact ihBranches branch hbranch child hmem (hnode.choice_branch branch hbranch child hmem)
          (hexpressions.choice_branch branch hbranch child hmem)
    · intro body hbody child hmem
      exact ihOtherwise body hbody child hmem (hnode.choice_otherwise body hbody child hmem)
        (hexpressions.choice_otherwise body hbody child hmem)
  | loop targets items reversed body empty ihBody ihEmpty =>
    have hitems : E items := hexpressions.here items (List.mem_singleton_self items)
    refine hR.renderLoop hitems (hR.renderAll ?_) (hR.renderOptional ?_)
    · intro child hmem
      exact ihBody child hmem (hnode.loop_body child hmem) (hexpressions.loop_body child hmem)
    · intro nodes hnodes child hmem
      exact ihEmpty nodes hnodes child hmem (hnode.loop_empty nodes hnodes child hmem)
        (hexpressions.loop_empty nodes hnodes child hmem)
  | comment => exact hR.pure ()
  | inclusion name =>
    exact hR.renderInclusion hnode.here (hexpressions.here name (List.mem_singleton_self name))
  | host node bodies ih =>
    refine hnode.here _ _ (hR.renderBodies ?_)
    intro body hbody child hmem
    exact ih body hbody child hmem (hnode.inBody hbody child hmem)
      (hexpressions.inBody hbody child hmem)

theorem mono {E' : Expression → Prop} (hR : Parallel E R) (h : ∀ e, E' e → E e) :
    Parallel E' R where
  __ := hR
  evaluate e he := hR.evaluate e (h e he)
  decide c hc := hR.decide c fun e hmem => h e (hc e hmem)
  bindings names hnames := hR.bindings names fun binding hmem => h _ (hnames binding hmem)

/-- The relation with its sides exchanged. -/
theorem swap (hR : Parallel E R) : Parallel E fun α m m' => R α m' m where
  __ := hR
  bind hm hf := hR.bind hm hf
  within frame _ _ hm := hR.within frame hm

/-- With no restriction on expressions, nodes other than the host program's are related as soon
as what is included is. -/
theorem render_standard (hR : Parallel (fun _ => True) R)
    (hfetch : ∀ name, R Unit (fetch name) (fetch' name)) {node : Node}
    (hnode : node.Every Node.IsStandard) :
    R Unit (Node.render fetch node) (Node.render fetch' node) := by
  have hincludes := hnode.mono (Node.includesAlike_of_isStandard hfetch)
  exact hR.render node hincludes (hnode.mono fun _ _ _ _ => trivial)

/-- Nodes that are none of the host program's are related to themselves as soon as what they include
is. -/
theorem renderAll_standard (hR : Parallel (fun _ => True) R)
    (hfetch : ∀ name, R Unit (fetch name) (fetch' name)) {nodes : List Node}
    (hnodes : ∀ node ∈ nodes, node.Every Node.IsStandard) :
    R Unit (Node.renderAll fetch nodes) (Node.renderAll fetch' nodes) :=
  hR.renderAll fun node hmem => hR.render_standard hfetch (hnodes node hmem)

end Render.Parallel

end TextTemplate
