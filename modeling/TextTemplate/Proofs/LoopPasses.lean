import TextTemplate.Proofs.LoopRecords
import TextTemplate.Proofs.Nodes
import TextTemplate.Proofs.RenderSteps

/-!
The passes through the bodies of loops. A rendering goes through the body of a loop once for each
item, in order, until something fails; what it goes through is told by a relation between nodes,
the state before, the steps and what the rendering comes to. The nodes and the state decide what
the steps are.
-/
namespace TextTemplate

open Render

/-- A step of a rendering: a node in the state that it starts in, or a pass through the body of a
loop, with the steps in it. -/
inductive Step where
  | node (node : Node) (start : RenderState)
  | pass (position : Position) (inner : List Step)

def Step.number? : Step → Option (Nat × Nat)
  | .node _ _ => none
  | .pass position _ => some (position.index, position.total)

structure Rounds where
  targets : List String
  total : Nat
  parent : Value
  body : List Node

def Rounds.start (rounds : Rounds) (s : RenderState) (index : Nat) (item : Value) : RenderState :=
  { s with
    scope := s.scope.push (Node.loopFrame rounds.targets index rounds.total rounds.parent item) }

namespace Node

def rounds (scope : Scope) (targets : List String) (items : List Value) (body : List Node) :
    Rounds :=
  ⟨targets, items.length, Value.ofOption (scope.lookup "forloop"), body⟩

def IsLeaf : Node → Prop
  | .text _ | .expression _ | .comment | .inclusion _ => True
  | _ => False

variable (fetch : String → Render Unit)

mutual

/-- What rendering a node comes to, and the steps on the way. -/
inductive Runs : Node → RenderState → List Step → Except Error Unit × RenderState → Prop where
  | leaf {node : Node} {s : RenderState} (hleaf : node.IsLeaf) :
      Runs node s [] (render fetch node s)
  | unbound {names : List (String × Expression)} {body : List Node} {s : RenderState} {e : Error}
      (hnames : resolveBindings s.scope [] names = .error e) :
      Runs (.binding names body) s [] (.error e, s)
  | binding {names : List (String × Expression)} {body : List Node} {s t : RenderState}
      {frame : Frame} {steps : List Step} {outcome : Except Error Unit}
      (hnames : resolveBindings s.scope [] names = .ok frame)
      (hbody : RunsAll body { s with scope := s.scope.push frame } steps (outcome, t)) :
      Runs (.binding names body) s steps (outcome, ⟨s.scope, t.output⟩)
  | undecided {branches : List (Condition × List Node)} {otherwise : Option (List Node)}
      {s : RenderState} {e : Error} (hchosen : chosen s.scope branches otherwise = .error e) :
      Runs (.choice branches otherwise) s [] (.error e, s)
  | choice {branches : List (Condition × List Node)} {otherwise body : Option (List Node)}
      {s : RenderState} {steps : List Step} {run : Except Error Unit × RenderState}
      (hchosen : chosen s.scope branches otherwise = .ok body)
      (hbody : RunsAll (body.getD []) s steps run) :
      Runs (.choice branches otherwise) s steps run
  | unresolved {targets : List String} {items : Expression} {reversed : Bool} {body : List Node}
      {empty : Option (List Node)} {s : RenderState} {e : Error}
      (hitems : items.resolve s.scope = .error e) :
      Runs (.loop targets items reversed body empty) s [] (.error e, s)
  | empty {targets : List String} {items : Expression} {reversed : Bool} {body : List Node}
      {empty : Option (List Node)} {s : RenderState} {v : Value} {steps : List Step}
      {run : Except Error Unit × RenderState} (hitems : items.resolve s.scope = .ok v)
      (hnothing : orderedItems targets reversed v = [])
      (hempty : RunsAll (empty.getD []) s steps run) :
      Runs (.loop targets items reversed body empty) s steps run
  | loop {targets : List String} {items : Expression} {reversed : Bool} {body : List Node}
      {empty : Option (List Node)} {s : RenderState} {v : Value} {steps : List Step}
      {run : Except Error Unit × RenderState} (hitems : items.resolve s.scope = .ok v)
      (hsome : orderedItems targets reversed v ≠ [])
      (hpasses : RunsItems (rounds s.scope targets (orderedItems targets reversed v) body) 0
        (orderedItems targets reversed v) s steps run) :
      Runs (.loop targets items reversed body empty) s steps run

inductive RunsAll :
    List Node → RenderState → List Step → Except Error Unit × RenderState → Prop where
  | nil {s : RenderState} : RunsAll [] s [] (.ok (), s)
  | fails {node : Node} {nodes : List Node} {s t : RenderState} {steps : List Step} {e : Error}
      (hnode : Runs node s steps (.error e, t)) :
      RunsAll (node :: nodes) s (.node node s :: steps) (.error e, t)
  | next {node : Node} {nodes : List Node} {s t : RenderState} {steps later : List Step}
      {run : Except Error Unit × RenderState} (hnode : Runs node s steps (.ok (), t))
      (hlater : RunsAll nodes t later run) :
      RunsAll (node :: nodes) s (.node node s :: steps ++ later) run

/-- A pass through the body for each of the items that are left, the first of which has the given
index, until one fails. -/
inductive RunsItems : Rounds → Nat → List Value → RenderState → List Step →
    Except Error Unit × RenderState → Prop where
  | nil {rounds : Rounds} {index : Nat} {s : RenderState} :
      RunsItems rounds index [] s [] (.ok (), s)
  | fails {rounds : Rounds} {index : Nat} {item : Value} {items : List Value} {s t : RenderState}
      {inner : List Step} {e : Error} (hlt : index < rounds.total)
      (hbody : RunsAll rounds.body (rounds.start s index item) inner (.error e, t)) :
      RunsItems rounds index (item :: items) s [.pass ⟨index, rounds.total, hlt⟩ inner]
        (.error e, ⟨s.scope, t.output⟩)
  | next {rounds : Rounds} {index : Nat} {item : Value} {items : List Value} {s t : RenderState}
      {inner later : List Step} {run : Except Error Unit × RenderState}
      (hlt : index < rounds.total)
      (hbody : RunsAll rounds.body (rounds.start s index item) inner (.ok (), t))
      (hlater : RunsItems rounds (index + 1) items ⟨s.scope, t.output⟩ later run) :
      RunsItems rounds index (item :: items) s (.pass ⟨index, rounds.total, hlt⟩ inner :: later)
        run

end

variable {fetch : String → Render Unit}

/-- The passes of a loop are numbered in order. There is one for each item, unless one fails. -/
theorem RunsItems.numbered {rounds : Rounds} {index : Nat} {items : List Value} {s : RenderState}
    {steps : List Step} {run : Except Error Unit × RenderState}
    (h : RunsItems fetch rounds index items s steps run) :
    steps.map Step.number? =
        (List.range' index steps.length).map (fun i => some (i, rounds.total)) ∧
      steps.length ≤ items.length ∧ (run.1 = .ok () → steps.length = items.length) := by
  induction items generalizing index s steps with
  | nil =>
    cases h
    exact ⟨rfl, Nat.le_refl _, fun _ => rfl⟩
  | cons item items ih =>
    cases h with
    | fails hlt hbody => exact ⟨rfl, Nat.succ_le_succ (Nat.zero_le _), fun hok => nomatch hok⟩
    | next hlt hbody hlater =>
      obtain ⟨hnumbers, hle, hall⟩ := ih hlater
      refine ⟨?_, Nat.succ_le_succ hle, fun hok => congrArg Nat.succ (hall hok)⟩
      rw [List.map_cons, hnumbers, List.length_cons, List.range'_succ, List.map_cons]
      rfl

/-- A loop that does not fail has a pass for each of its items, in order. -/
theorem Runs.numbered {targets : List String} {items : Expression} {reversed : Bool}
    {body : List Node} {empty : Option (List Node)} {s : RenderState} {steps : List Step}
    {run : Except Error Unit × RenderState}
    (h : Runs fetch (.loop targets items reversed body empty) s steps run)
    (hok : run.1 = .ok ()) {v : Value} (hitems : items.resolve s.scope = .ok v)
    (hsome : orderedItems targets reversed v ≠ []) :
    steps.map Step.number? = (List.range (orderedItems targets reversed v).length).map
      fun i => some (i, (orderedItems targets reversed v).length) := by
  cases h with
  | leaf hleaf => exact hleaf.elim
  | unresolved hfailed => exact nomatch hok
  | empty hitems' hnothing hempty =>
    obtain rfl := Except.ok.inj (hitems.symm.trans hitems')
    exact absurd hnothing hsome
  | loop hitems' hsome' hpasses =>
    obtain rfl := Except.ok.inj (hitems.symm.trans hitems')
    obtain ⟨hnumbers, _, hall⟩ := hpasses.numbered
    rw [hnumbers, hall hok, List.range_eq_range']
    rfl

/-- A run of a single node is one step, with the run of the node in it. -/
theorem RunsAll.of_singleton {node : Node} {s : RenderState} {steps : List Step}
    {run : Except Error Unit × RenderState} (h : RunsAll fetch [node] s steps run) :
    ∃ inner, steps = .node node s :: inner ∧ Runs fetch node s inner run := by
  cases h with
  | fails hnode => exact ⟨_, rfl, hnode⟩
  | next hnode hlater =>
    cases hlater
    exact ⟨_, List.append_nil _, hnode⟩

def Determined (runs : RenderState → List Step → Except Error Unit × RenderState → Prop) : Prop :=
  ∀ ⦃s : RenderState⦄ ⦃steps steps' : List Step⦄ ⦃run run' : Except Error Unit × RenderState⦄,
    runs s steps run → runs s steps' run' → steps = steps' ∧ run = run'

/-- Nodes in turn have at most one run if each of them has. -/
theorem determined_runsAll {nodes : List Node} (h : ∀ node ∈ nodes, Determined (Runs fetch node)) :
    Determined (RunsAll fetch nodes) := by
  induction nodes with
  | nil =>
    intro s steps steps' run run' hruns hruns'
    cases hruns
    cases hruns'
    exact ⟨rfl, rfl⟩
  | cons node nodes ih =>
    obtain ⟨hnode, hlater⟩ := List.forall_mem_cons.1 h
    intro s steps steps' run run' hruns hruns'
    cases hruns with
    | fails hfirst =>
      cases hruns' with
      | fails hfirst' =>
        obtain ⟨rfl, hrun⟩ := hnode hfirst hfirst'
        exact ⟨rfl, hrun⟩
      | next hfirst' _ => exact nomatch (hnode hfirst hfirst').2
    | next hfirst hrest =>
      cases hruns' with
      | fails hfirst' => exact nomatch (hnode hfirst hfirst').2
      | next hfirst' hrest' =>
        obtain ⟨rfl, hrun⟩ := hnode hfirst hfirst'
        obtain ⟨_, rfl⟩ := Prod.mk.inj hrun
        obtain ⟨rfl, rfl⟩ := ih hlater hrest hrest'
        exact ⟨rfl, rfl⟩

/-- The passes of a loop have at most one run if its body has. -/
theorem determined_runsItems {rounds : Rounds} (h : Determined (RunsAll fetch rounds.body))
    {index : Nat} {items : List Value} : Determined (RunsItems fetch rounds index items) := by
  induction items generalizing index with
  | nil =>
    intro s steps steps' run run' hruns hruns'
    cases hruns
    cases hruns'
    exact ⟨rfl, rfl⟩
  | cons item items ih =>
    intro s steps steps' run run' hruns hruns'
    cases hruns with
    | fails hlt hbody =>
      cases hruns' with
      | fails _ hbody' =>
        obtain ⟨rfl, hrun⟩ := h hbody hbody'
        obtain ⟨herror, rfl⟩ := Prod.mk.inj hrun
        rw [herror]
        exact ⟨rfl, rfl⟩
      | next _ hbody' _ => exact nomatch (h hbody hbody').2
    | next hlt hbody hrest =>
      cases hruns' with
      | fails _ hbody' => exact nomatch (h hbody hbody').2
      | next _ hbody' hrest' =>
        obtain ⟨rfl, hrun⟩ := h hbody hbody'
        obtain ⟨_, rfl⟩ := Prod.mk.inj hrun
        obtain ⟨rfl, rfl⟩ := ih hrest hrest'
        exact ⟨rfl, rfl⟩

theorem determined_leaf {node : Node} (hleaf : node.IsLeaf) : Determined (Runs fetch node) := by
  intro s steps steps' run run' hruns hruns'
  cases hruns with
  | leaf _ =>
    cases hruns' with
    | leaf _ => exact ⟨rfl, rfl⟩
    | _ => exact hleaf.elim
  | _ => exact hleaf.elim

theorem determined_binding {names : List (String × Expression)} {body : List Node}
    (h : Determined (RunsAll fetch body)) : Determined (Runs fetch (.binding names body)) := by
  intro s steps steps' run run' hruns hruns'
  cases hruns with
  | leaf hleaf => exact hleaf.elim
  | unbound hnames =>
    cases hruns' with
    | leaf hleaf => exact hleaf.elim
    | unbound hnames' =>
      obtain rfl := Except.error.inj (hnames.symm.trans hnames')
      exact ⟨rfl, rfl⟩
    | binding hnames' _ => exact nomatch hnames.symm.trans hnames'
  | binding hnames hbody =>
    cases hruns' with
    | leaf hleaf => exact hleaf.elim
    | unbound hnames' => exact nomatch hnames.symm.trans hnames'
    | binding hnames' hbody' =>
      obtain rfl := Except.ok.inj (hnames.symm.trans hnames')
      obtain ⟨rfl, hrun⟩ := h hbody hbody'
      obtain ⟨rfl, rfl⟩ := Prod.mk.inj hrun
      exact ⟨rfl, rfl⟩

theorem determined_optional {body : Option (List Node)}
    (h : ∀ nodes ∈ body, Determined (RunsAll fetch nodes)) :
    Determined (RunsAll fetch (body.getD [])) := by
  cases body with
  | none => exact determined_runsAll (List.forall_mem_nil _)
  | some nodes => exact h nodes rfl

theorem determined_choice {branches : List (Condition × List Node)}
    {otherwise : Option (List Node)}
    (hbranches : ∀ branch ∈ branches, Determined (RunsAll fetch branch.2))
    (hotherwise : ∀ nodes ∈ otherwise, Determined (RunsAll fetch nodes)) :
    Determined (Runs fetch (.choice branches otherwise)) := by
  intro s steps steps' run run' hruns hruns'
  cases hruns with
  | leaf hleaf => exact hleaf.elim
  | undecided hchosen =>
    cases hruns' with
    | leaf hleaf => exact hleaf.elim
    | undecided hchosen' =>
      obtain rfl := Except.error.inj (hchosen.symm.trans hchosen')
      exact ⟨rfl, rfl⟩
    | choice hchosen' _ => exact nomatch hchosen.symm.trans hchosen'
  | choice hchosen hbody =>
    cases hruns' with
    | leaf hleaf => exact hleaf.elim
    | undecided hchosen' => exact nomatch hchosen.symm.trans hchosen'
    | choice hchosen' hbody' =>
      obtain rfl := Except.ok.inj (hchosen.symm.trans hchosen')
      have hbodies := forall_chosen hchosen hbranches hotherwise
      exact determined_optional hbodies hbody hbody'

theorem determined_loop {targets : List String} {items : Expression} {reversed : Bool}
    {body : List Node} {empty : Option (List Node)} (hbody : Determined (RunsAll fetch body))
    (hempty : ∀ nodes ∈ empty, Determined (RunsAll fetch nodes)) :
    Determined (Runs fetch (.loop targets items reversed body empty)) := by
  intro s steps steps' run run' hruns hruns'
  cases hruns with
  | leaf hleaf => exact hleaf.elim
  | unresolved hitems =>
    cases hruns' with
    | leaf hleaf => exact hleaf.elim
    | unresolved hitems' =>
      obtain rfl := Except.error.inj (hitems.symm.trans hitems')
      exact ⟨rfl, rfl⟩
    | empty hitems' _ _ => exact nomatch hitems.symm.trans hitems'
    | loop hitems' _ _ => exact nomatch hitems.symm.trans hitems'
  | empty hitems hnothing hnodes =>
    cases hruns' with
    | leaf hleaf => exact hleaf.elim
    | unresolved hitems' => exact nomatch hitems.symm.trans hitems'
    | empty _ _ hnodes' => exact determined_optional hempty hnodes hnodes'
    | loop hitems' hsome _ =>
      obtain rfl := Except.ok.inj (hitems.symm.trans hitems')
      exact absurd hnothing hsome
  | loop hitems hsome hpasses =>
    cases hruns' with
    | leaf hleaf => exact hleaf.elim
    | unresolved hitems' => exact nomatch hitems.symm.trans hitems'
    | empty hitems' hnothing _ =>
      obtain rfl := Except.ok.inj (hitems.symm.trans hitems')
      exact absurd hnothing hsome
    | loop hitems' _ hpasses' =>
      obtain rfl := Except.ok.inj (hitems.symm.trans hitems')
      exact determined_runsItems hbody hpasses hpasses'

/-- There is at most one run of a node, by induction on the node. -/
theorem determined_runs (node : Node) : Determined (Runs fetch node) := by
  induction node with
  | text s => exact determined_leaf trivial
  | expression e => exact determined_leaf trivial
  | comment => exact determined_leaf trivial
  | inclusion name => exact determined_leaf trivial
  | host node bodies ih =>
    intro s steps steps' run run' hruns
    cases hruns with
    | leaf hleaf => exact hleaf.elim
  | binding names body ih => exact determined_binding (determined_runsAll ih)
  | choice branches otherwise ihBranches ihOtherwise =>
    exact determined_choice (fun branch hbranch => determined_runsAll (ihBranches branch hbranch))
      fun nodes hnodes => determined_runsAll (ihOtherwise nodes hnodes)
  | loop targets items reversed body empty ihBody ihEmpty =>
    exact determined_loop (determined_runsAll ihBody)
      fun nodes hnodes => determined_runsAll (ihEmpty nodes hnodes)

end Node

end TextTemplate
