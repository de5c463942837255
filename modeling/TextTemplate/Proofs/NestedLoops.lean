import TextTemplate.Engine.Context
import TextTemplate.Proofs.Completeness
import TextTemplate.Proofs.FilterChains
import TextTemplate.Proofs.LoopPasses
import TextTemplate.Proofs.ScopeKept

/-!
Nested loops. Every rendering is told as passes through the bodies of loops. If nothing takes the
name of the loop record, then at each step the records of all loops around it are those of the
iterations under way: a loop looks up the record of the loop around it before its own first pass,
and every pass leaves the scope as it was.
-/
namespace TextTemplate

open Render

/-- At a step, and at those within it, the records of all loops around it are found; the loops
are given from the inside out. -/
inductive Step.Records : List Position → Step → Prop where
  | node {outer : List Position} {node : Node} {start : RenderState}
      (hhere : outer ≠ [] → RecordsLoops outer start.scope) : Records outer (.node node start)
  | pass {outer : List Position} {position : Position} {inner : List Step}
      (hinner : ∀ step ∈ inner, Records (position :: outer) step) :
      Records outer (.pass position inner)

namespace Node

variable {fetch : String → Render Unit}

def SparesRecord : Node → Prop
  | .binding names _ => "forloop" ∉ Entries.names names
  | .loop targets _ _ _ _ => "forloop" ∉ targets
  | _ => True

/-- A computation is the run of nodes, in the steps of which the records are found, wherever it
starts with the records of the loops around it. -/
def Told (outer : List Position)
    (runs : RenderState → List Step → Except Error Unit × RenderState → Prop)
    (m : Render Unit) : Prop :=
  ∀ s, Value.ofOption (s.scope.lookup "forloop") = enclosing outer →
    ∃ steps, runs s steps (m s) ∧ ∀ step ∈ steps, step.Records outer

/-- Nodes in turn tell of their loops if each does and leaves the scope as it was. -/
theorem told_renderAll {outer : List Position} {nodes : List Node}
    (hnodes : ∀ node ∈ nodes, Told outer (Runs fetch node) (render fetch node))
    (hscope : ∀ node ∈ nodes, KeepsScope (render fetch node)) :
    Told outer (RunsAll fetch nodes) (renderAll fetch nodes) := by
  induction nodes with
  | nil =>
    intro s _
    exact ⟨[], .nil, List.forall_mem_nil _⟩
  | cons node nodes ih =>
    obtain ⟨hnode, hlater⟩ := List.forall_mem_cons.1 hnodes
    obtain ⟨hkept, hothers⟩ := List.forall_mem_cons.1 hscope
    intro s hs
    obtain ⟨steps, hruns, hsteps⟩ := hnode s hs
    have hhere : (Step.node node s).Records outer := .node (recordsLoops_of_innermost hs)
    have hsame := hkept s
    rcases hrun : render fetch node s with ⟨outcome, t⟩
    rw [hrun] at hruns hsame
    cases outcome with
    | error e =>
      refine ⟨.node node s :: steps, ?_, List.forall_mem_cons.2 ⟨hhere, hsteps⟩⟩
      rw [renderAll, Attempt.bind_of_error hrun]
      exact .fails hruns
    | ok done =>
      have hnext : Value.ofOption (t.scope.lookup "forloop") = enclosing outer := hsame ▸ hs
      obtain ⟨later, hruns', hsteps'⟩ := ih hlater hothers t hnext
      refine ⟨.node node s :: steps ++ later, ?_,
        List.forall_mem_append.2 ⟨List.forall_mem_cons.2 ⟨hhere, hsteps⟩, hsteps'⟩⟩
      rw [renderAll, Attempt.bind_of_ok hrun]
      exact .next hruns hruns'

/-- In the frame of an iteration, the record is that of the innermost loop. -/
theorem lookup_roundStart {outer : List Position} {rounds : Rounds}
    (htargets : "forloop" ∉ rounds.targets) (hparent : rounds.parent = enclosing outer)
    (s : RenderState) {index : Nat} (hlt : index < rounds.total) (item : Value) :
    (rounds.start s index item).scope.lookup "forloop" =
      some (enclosing (⟨index, rounds.total, hlt⟩ :: outer)) := by
  have hframe := get?_loopFrame_record htargets index rounds.total rounds.parent item
  change (s.scope.push _).lookup "forloop" = _
  rw [Scope.lookup_push, hframe, Option.some_or, hparent]
  rfl

/-- The passes that are left of a loop tell of it, by induction on its items. -/
theorem iterate_told {outer : List Position} {rounds : Rounds}
    (htargets : "forloop" ∉ rounds.targets) (hparent : rounds.parent = enclosing outer)
    (hbody : ∀ outer, Told outer (RunsAll fetch rounds.body) (renderAll fetch rounds.body))
    (hscope : KeepsScope (renderAll fetch rounds.body)) {index : Nat} {items : List Value}
    (htotal : index + items.length = rounds.total) (s : RenderState) :
    ∃ steps, RunsItems fetch rounds index items s steps
        (iterate (renderAll fetch rounds.body) rounds.targets rounds.total rounds.parent index
          items s) ∧
      ∀ step ∈ steps, step.Records outer := by
  induction items generalizing index s with
  | nil => exact ⟨[], .nil, List.forall_mem_nil _⟩
  | cons item items ih =>
    rw [List.length_cons] at htotal
    have hlt : index < rounds.total := by omega
    let here : Position := ⟨index, rounds.total, hlt⟩
    have hinside : Value.ofOption ((rounds.start s index item).scope.lookup "forloop") =
        enclosing (here :: outer) := by
      rw [lookup_roundStart htargets hparent s hlt item]
      rfl
    obtain ⟨inner, hruns, hinner⟩ := hbody (here :: outer) _ hinside
    have hpass : (Step.pass here inner).Records outer := .pass hinner
    rcases hrun : renderAll fetch rounds.body (rounds.start s index item) with ⟨outcome, t⟩
    rw [hrun] at hruns
    have hwithin := hscope.within_run hrun
    cases outcome with
    | error e =>
      refine ⟨_, ?_, List.forall_mem_singleton.2 hpass⟩
      rw [iterate, Attempt.bind_of_error hwithin]
      exact .fails hlt hruns
    | ok done =>
      have hleft : index + 1 + items.length = rounds.total := by omega
      obtain ⟨later, hlater, hsteps⟩ := ih hleft ⟨s.scope, t.output⟩
      refine ⟨_, ?_, List.forall_mem_cons.2 ⟨hpass, hsteps⟩⟩
      rw [iterate, Attempt.bind_of_ok hwithin]
      exact .next hlt hruns hlater

/-- A frame of bindings leaves other names alone. -/
theorem get?_resolveBindings {scope : Scope} {name : String} {names : List (String × Expression)}
    (h : name ∉ Entries.names names) {start frame : Frame}
    (hframe : resolveBindings scope start names = .ok frame) :
    Entries.get? frame name = Entries.get? start name := by
  induction names generalizing start with
  | nil => rw [Except.ok.inj hframe]
  | cons binding names ih =>
    obtain ⟨hfirst, hrest⟩ := not_or.1 (mt List.mem_cons.2 h)
    rw [resolveBindings] at hframe
    split at hframe
    · simp at hframe
    · rw [ih hrest hframe, Entries.get?_set, if_neg (Ne.symm hfirst)]

theorem told_binding {outer : List Position} {names : List (String × Expression)}
    {body : List Node} (hnames : "forloop" ∉ Entries.names names)
    (hbody : Told outer (RunsAll fetch body) (renderAll fetch body))
    (hscope : KeepsScope (renderAll fetch body)) :
    Told outer (Runs fetch (.binding names body)) (render fetch (.binding names body)) := by
  intro s hs
  rw [render_binding_run]
  cases hframe : resolveBindings s.scope [] names with
  | error e => exact ⟨[], .unbound hframe, List.forall_mem_nil _⟩
  | ok frame =>
    let inner : RenderState := { s with scope := s.scope.push frame }
    have hsame : inner.scope.lookup "forloop" = s.scope.lookup "forloop" := by
      change (s.scope.push frame).lookup "forloop" = _
      rw [Scope.lookup_push, get?_resolveBindings hnames hframe, Entries.get?, Option.none_or]
    obtain ⟨steps, hruns, hsteps⟩ := hbody inner (hsame ▸ hs)
    rcases hrun : renderAll fetch body inner with ⟨outcome, t⟩
    rw [hrun] at hruns
    refine ⟨steps, ?_, hsteps⟩
    dsimp only
    rw [hscope.within_run hrun]
    exact .binding hframe hruns

theorem renderOptional_eq (body : Option (List Node)) (s : RenderState) :
    renderOptional fetch body s = renderAll fetch (body.getD []) s := by
  cases body <;> rfl

/-- Nothing at all, or one of several bodies. -/
theorem told_optional {outer : List Position} {body : Option (List Node)}
    (hbody : ∀ nodes ∈ body, Told outer (RunsAll fetch nodes) (renderAll fetch nodes)) :
    Told outer (RunsAll fetch (body.getD [])) (renderOptional fetch body) := by
  intro s hs
  rw [renderOptional_eq]
  cases body with
  | none => exact ⟨[], .nil, List.forall_mem_nil _⟩
  | some nodes => exact hbody nodes rfl s hs

theorem told_choice {outer : List Position} {branches : List (Condition × List Node)}
    {otherwise : Option (List Node)}
    (hbranches : ∀ branch ∈ branches,
      Told outer (RunsAll fetch branch.2) (renderAll fetch branch.2))
    (hotherwise : ∀ nodes ∈ otherwise, Told outer (RunsAll fetch nodes) (renderAll fetch nodes)) :
    Told outer (Runs fetch (.choice branches otherwise))
      (render fetch (.choice branches otherwise)) := by
  intro s hs
  rw [render_choice_run]
  cases hchosen : chosen s.scope branches otherwise with
  | error e => exact ⟨[], .undecided hchosen, List.forall_mem_nil _⟩
  | ok body =>
    have hbody : ∀ nodes ∈ body, Told outer (RunsAll fetch nodes) (renderAll fetch nodes) :=
      forall_chosen hchosen hbranches hotherwise
    obtain ⟨steps, hruns, hsteps⟩ := told_optional hbody s hs
    exact ⟨steps, .choice hchosen hruns, hsteps⟩

theorem told_loop {outer : List Position} {targets : List String} {items : Expression}
    {reversed : Bool} {body : List Node} {empty : Option (List Node)}
    (htargets : "forloop" ∉ targets)
    (hbody : ∀ outer, Told outer (RunsAll fetch body) (renderAll fetch body))
    (hscope : KeepsScope (renderAll fetch body))
    (hempty : ∀ nodes ∈ empty, Told outer (RunsAll fetch nodes) (renderAll fetch nodes)) :
    Told outer (Runs fetch (.loop targets items reversed body empty))
      (render fetch (.loop targets items reversed body empty)) := by
  intro s hs
  rw [render_loop_run]
  cases hitems : items.resolve s.scope with
  | error e => exact ⟨[], .unresolved hitems, List.forall_mem_nil _⟩
  | ok v =>
    dsimp only
    by_cases hnothing : orderedItems targets reversed v = []
    · obtain ⟨steps, hruns, hsteps⟩ := told_optional hempty s hs
      rw [if_pos hnothing]
      exact ⟨steps, .empty hitems hnothing hruns, hsteps⟩
    · let shared := rounds s.scope targets (orderedItems targets reversed v) body
      have htotal : 0 + (orderedItems targets reversed v).length = shared.total := Nat.zero_add _
      obtain ⟨steps, hruns, hsteps⟩ :=
        @iterate_told fetch outer shared htargets hs hbody hscope 0 _ htotal s
      rw [if_neg hnothing]
      exact ⟨steps, .loop hitems hnothing hruns, hsteps⟩

theorem told_body {body : List Node}
    (htold : ∀ child ∈ body, child.Every (KeepsScopeItself fetch) → child.Every SparesRecord →
      ∀ outer, Told outer (Runs fetch child) (render fetch child))
    (hscope : ∀ child ∈ body, child.Every (KeepsScopeItself fetch))
    (hnames : ∀ child ∈ body, child.Every SparesRecord) :
    (∀ outer, Told outer (RunsAll fetch body) (renderAll fetch body)) ∧
      KeepsScope (renderAll fetch body) := by
  have hkept : ∀ child ∈ body, KeepsScope (render fetch child) :=
    fun child hchild => keepsScope_render child (hscope child hchild)
  refine ⟨fun outer => told_renderAll ?_ hkept, keepsScope_renderAll hkept⟩
  exact fun child hchild => htold child hchild (hscope child hchild) (hnames child hchild) outer

/-- Any node that keeps its scope and spares the record tells of its loops. -/
theorem told_render (node : Node) (hscope : node.Every (KeepsScopeItself fetch))
    (hnames : node.Every SparesRecord) (outer : List Position) :
    Told outer (Runs fetch node) (render fetch node) := by
  induction node generalizing outer with
  | text s => exact fun _ _ => ⟨[], .leaf trivial, List.forall_mem_nil _⟩
  | expression e => exact fun _ _ => ⟨[], .leaf trivial, List.forall_mem_nil _⟩
  | comment => exact fun _ _ => ⟨[], .leaf trivial, List.forall_mem_nil _⟩
  | inclusion name => exact fun _ _ => ⟨[], .leaf trivial, List.forall_mem_nil _⟩
  | host node bodies ih => exact hscope.here.elim
  | binding names body ih =>
    obtain ⟨htold, hkept⟩ := told_body ih hscope.binding_body hnames.binding_body
    exact told_binding hnames.here (htold outer) hkept
  | choice branches otherwise ihBranches ihOtherwise =>
    refine told_choice ?_ ?_
    · intro branch hbranch
      exact (told_body (ihBranches branch hbranch) (hscope.choice_branch branch hbranch)
        (hnames.choice_branch branch hbranch)).1 outer
    · intro nodes hnodes
      exact (told_body (ihOtherwise nodes hnodes) (hscope.choice_otherwise nodes hnodes)
        (hnames.choice_otherwise nodes hnodes)).1 outer
  | loop targets items reversed body empty ihBody ihEmpty =>
    obtain ⟨htold, hkept⟩ := told_body ihBody hscope.loop_body hnames.loop_body
    refine told_loop hnames.here htold hkept ?_
    intro nodes hnodes
    exact (told_body (ihEmpty nodes hnodes) (hscope.loop_empty nodes hnodes)
      (hnames.loop_empty nodes hnodes)).1 outer

end Node

namespace Context

/-- From a context without a loop record, a rendering goes through the bodies of loops once for
each item, and at each node in them all loops around it are recorded, with null behind the
outermost one. There is no other way to tell it, and it leaves the context alone. -/
theorem renderTo_passes (ctx : Context) (hforloop : ctx.scope.lookup "forloop" = none)
    {nodes : List Node} {depth : Nat}
    (hscope : ∀ node ∈ nodes, node.Every (Node.KeepsScopeItself (ctx.fetch depth)))
    (hnames : ∀ node ∈ nodes, node.Every Node.SparesRecord) (output : Output) :
    ∃ steps outcome out, ctx.renderTo depth nodes output = (outcome, out, ctx) ∧
      (∀ steps' run, Node.RunsAll (ctx.fetch depth) nodes ⟨ctx.scope, output⟩ steps' run ↔
        steps' = steps ∧ run = (outcome, ⟨ctx.scope, out⟩)) ∧
      ∀ step ∈ steps, step.Records [] := by
  obtain ⟨htold, hkept⟩ := Node.told_body (fun node _ => Node.told_render node) hscope hnames
  have hnone : Value.ofOption (ctx.scope.lookup "forloop") = enclosing [] := by
    rw [hforloop]
    rfl
  obtain ⟨steps, hruns, hsteps⟩ := htold [] ⟨ctx.scope, output⟩ hnone
  have hsame := hkept ⟨ctx.scope, output⟩
  rcases hrun : Node.renderAll (ctx.fetch depth) nodes ⟨ctx.scope, output⟩ with
    ⟨outcome, scope, out⟩
  rw [hrun] at hruns hsame
  obtain rfl : scope = ctx.scope := hsame
  refine ⟨steps, outcome, out, ?_, ?_, hsteps⟩
  · rw [renderTo, hrun]
  · intro steps' run
    constructor
    · intro hruns'
      have honly : Node.Determined (Node.RunsAll (ctx.fetch depth) nodes) :=
        Node.determined_runsAll fun node _ => Node.determined_runs node
      exact honly hruns' hruns
    · rintro ⟨rfl, rfl⟩
      exact hruns

def lettersLoop : Item :=
  .loop ⟨.tag .block, "for x in rows", 1⟩ ⟨["x"], "rows", false⟩ (.ofPath ["rows"])
    [.binding ⟨.tag .block, "with y=x", 1⟩ [("y", .ofPath ["x"])]
      [.choice ⟨.tag .block, "if y", 1⟩ (.operand (.ofPath ["y"]))
        [.loop ⟨.tag .block, "for c in y reversed", 1⟩ ⟨["c"], "y", true⟩ (.ofPath ["y"])
          [.expression ⟨.tag .expression, "forloop.parentloop.counter", 1⟩
              (.ofPath ["forloop", "parentloop", "counter"]),
            .expression ⟨.tag .expression, "forloop.revcounter", 1⟩
              (.ofPath ["forloop", "revcounter"]),
            .expression ⟨.tag .expression, "c", 1⟩ (.ofPath ["c"])]
          none ⟨.tag .block, "endfor", 1⟩]
        [] none ⟨.tag .block, "endif", 1⟩]
      ⟨.tag .block, "endwith", 1⟩]
    none ⟨.tag .block, "endfor", 1⟩

def lettersSource : String :=
  "{% for x in rows %}{% with y=x %}{% if y %}{% for c in y reversed %}" ++
    "{{ forloop.parentloop.counter }}{{ forloop.revcounter }}{{ c }}" ++
    "{% endfor %}{% endif %}{% endwith %}{% endfor %}"

theorem derives_letters :
    Item.Derives Engine.withDefaults.catalog.filter? [lettersLoop]
      (Token.scan false lettersSource) := by
  refine ⟨⟨?_, trivial⟩, by decide +kernel⟩
  refine ⟨rfl, ⟨rfl, rfl⟩, ⟨⟨rfl, rfl, ⟨?_, trivial⟩, rfl⟩, trivial⟩, trivial, rfl⟩
  refine ⟨rfl, by with_unfolding_all rfl, ⟨?_, trivial⟩, trivial, trivial, ?_, rfl⟩
  · exact ⟨rfl, ⟨rfl, rfl⟩, ⟨⟨rfl, rfl⟩, ⟨rfl, rfl⟩, ⟨rfl, rfl⟩, trivial⟩, trivial, rfl⟩
  · exact fun _ hmem => nomatch hmem

theorem every_letters {P : Node → Prop} (hexpression : ∀ e, P (.expression e))
    (hbinding : ∀ e body, P (.binding [("y", e)] body))
    (hchoice : ∀ branches otherwise, P (.choice branches otherwise))
    (hrows : ∀ items reversed body, P (.loop ["x"] items reversed body none))
    (hletters : ∀ items reversed body, P (.loop ["c"] items reversed body none)) :
    ∀ node ∈ Item.nodes [lettersLoop], node.Every P := by
  have hshown : ∀ e, (Node.expression e).Every P := fun e => .leaf (hexpression e) rfl
  refine List.forall_mem_singleton.2 (.intro _ (hrows _ _ _) ?_)
  refine List.forall_mem_singleton.2 (List.forall_mem_singleton.2 ?_)
  refine .intro _ (hbinding _ _) (List.forall_mem_singleton.2 (List.forall_mem_singleton.2 ?_))
  refine .intro _ (hchoice _ _) (List.forall_mem_singleton.2 (List.forall_mem_singleton.2 ?_))
  refine .intro _ (hletters _ _ _) (List.forall_mem_singleton.2 ?_)
  exact List.forall_mem_cons.2
    ⟨hshown _, List.forall_mem_cons.2 ⟨hshown _, List.forall_mem_singleton.2 (hshown _)⟩⟩

/-- There is a pass for each row, also for the one without letters. -/
theorem renderTo_passes_letters :
    let ctx : Context :=
      { scope := { root := [("rows", .list [.str "ab", .str "", .str "c"])] } }
    ∃ nodes, Engine.withDefaults.catalog.compile false lettersSource = .ok nodes ∧
      ctx.scope.lookup "forloop" = none ∧
      ∃ steps out, ctx.renderTo 0 nodes {} = (.ok (), out, ctx) ∧
        (∀ steps' run, Node.RunsAll (ctx.fetch 0) nodes ⟨ctx.scope, {}⟩ steps' run ↔
          steps' = steps ∧ run = (.ok (), ⟨ctx.scope, out⟩)) ∧
        (∀ step ∈ steps, step.Records []) ∧ out.text = "12b11a31c" ∧
        ∃ first passes, steps = first :: passes ∧
          passes.map Step.number? = [some (0, 3), some (1, 3), some (2, 3)] := by
  intro ctx
  have hforloop : ctx.scope.lookup "forloop" = none := rfl
  have hscope : ∀ node ∈ Item.nodes [lettersLoop],
      node.Every (Node.KeepsScopeItself (ctx.fetch 0)) :=
    every_letters (fun _ => trivial) (fun _ _ => trivial) (fun _ _ => trivial)
      (fun _ _ _ => trivial) fun _ _ _ => trivial
  have hnames : ∀ node ∈ Item.nodes [lettersLoop], node.Every Node.SparesRecord := by
    have hspared : ∀ name ∈ ["x", "y", "c"], "forloop" ∉ [name] := by decide
    exact every_letters (fun _ => trivial) (fun _ _ => hspared "y" (by decide))
      (fun _ _ => trivial) (fun _ _ _ => hspared "x" (by decide))
      fun _ _ _ => hspared "c" (by decide)
  obtain ⟨steps, outcome, out, hrender, honly, hsteps⟩ :=
    renderTo_passes ctx hforloop hscope hnames {}
  have hresult : (ctx.renderTo 0 (Item.nodes [lettersLoop]) {}).1 = .ok () ∧
      (ctx.renderTo 0 (Item.nodes [lettersLoop]) {}).2.1.text = "12b11a31c" := by
    decide +kernel
  rw [hrender] at hresult
  obtain ⟨rfl, htext⟩ := hresult
  have hcompile := Catalog.compile_of_derives Engine.withDefaults_hasStandardTags derives_letters
  obtain ⟨passes, hfirst, hloop⟩ := Node.RunsAll.of_singleton ((honly _ _).2 ⟨rfl, rfl⟩)
  have hitems : (Expression.ofPath ["rows"]).resolve ctx.scope =
      .ok (.list [.str "ab", .str "", .str "c"]) := rfl
  have hnumbers := hloop.numbered rfl hitems (List.cons_ne_nil _ _)
  exact ⟨_, hcompile, hforloop, steps, out, hrender, honly, hsteps, htext, _, passes, hfirst,
    hnumbers⟩

end Context

end TextTemplate
