import TextTemplate.Proofs.Completeness
import TextTemplate.Proofs.LoadedTexts
import TextTemplate.Proofs.SeenNames

/-!
Inclusion is inlining. A template that is included by a quoted name renders as its nodes do
in the place of the inclusion, wherever in the tree that is: the frame that it is rendered in
is empty, and so hides no name. Only the depth to which inclusions nest differs, by one; it
does not matter for a rendering that ends, because such a rendering is the same at every
greater depth.
-/
namespace TextTemplate

def Expression.IsQuoted (e : Expression) (text : String) : Prop :=
  e.head = .literal (.safe text) ∧ e.calls = []

/-- Of two lists of nodes, the second has the nodes of a template where the first includes the
template by its quoted name, at one place of the tree. -/
inductive Node.Inlined (name : String) (template : List Node) : List Node → List Node → Prop where
  | here (e : Expression) (rest : List Node) (hquoted : e.IsQuoted name) :
      Inlined name template (.inclusion e :: rest) (template ++ rest)
  | later (node : Node) {rest rest' : List Node} (h : Inlined name template rest rest') :
      Inlined name template (node :: rest) (node :: rest')
  | binding (names : List (String × Expression)) {body body' : List Node} (rest : List Node)
      (h : Inlined name template body body') :
      Inlined name template (.binding names body :: rest) (.binding names body' :: rest)
  | branch (before : List (Condition × List Node)) (condition : Condition)
      {body body' : List Node} (after : List (Condition × List Node))
      (otherwise : Option (List Node)) (rest : List Node) (h : Inlined name template body body') :
      Inlined name template (.choice (before ++ (condition, body) :: after) otherwise :: rest)
        (.choice (before ++ (condition, body') :: after) otherwise :: rest)
  | otherwise (branches : List (Condition × List Node)) {body body' : List Node}
      (rest : List Node) (h : Inlined name template body body') :
      Inlined name template (.choice branches (some body) :: rest)
        (.choice branches (some body') :: rest)
  | loop (targets : List String) (items : Expression) (reversed : Bool) {body body' : List Node}
      (empty : Option (List Node)) (rest : List Node) (h : Inlined name template body body') :
      Inlined name template (.loop targets items reversed body empty :: rest)
        (.loop targets items reversed body' empty :: rest)
  | empty (targets : List String) (items : Expression) (reversed : Bool) (body : List Node)
      {nodes nodes' : List Node} (rest : List Node) (h : Inlined name template nodes nodes') :
      Inlined name template (.loop targets items reversed body (some nodes) :: rest)
        (.loop targets items reversed body (some nodes') :: rest)

namespace Node

theorem renderAll_append (fetch : String → Render Unit) (nodes nodes' : List Node) :
    renderAll fetch (nodes ++ nodes') =
      renderAll fetch nodes >>= fun _ => renderAll fetch nodes' := by
  induction nodes with
  | nil => rfl
  | cons node nodes ih =>
    rw [List.cons_append, renderAll, renderAll, ih]
    exact (Attempt.bind_assoc _ _ _).symm

variable {name : String} {template nodes nodes' : List Node}
  {R : (α : Type) → Render α → Render α → Prop} {fetch fetch' : String → Render Unit}

/-- An inclusion by a quoted name renders what is fetched under that name. -/
theorem render_inclusion_quoted {e : Expression} (h : e.IsQuoted name) :
    render fetch (.inclusion e) = fetch name := by
  funext s
  have hvalue : e.resolve s.scope = .ok (.safe name) := by
    rw [Expression.resolve, h.1, h.2]
    rfl
  refine (Render.ofScope_bind_run _ _ s).trans ?_
  rw [hvalue]
  rfl

/-- If the included template is related to its nodes, then so are the trees. -/
theorem Inlined.parallel (hR : Render.Parallel (fun _ => True) R)
    (hfetch : ∀ name, R Unit (fetch name) (fetch' name))
    (htemplate : R Unit (fetch name) (renderAll fetch' template))
    (h : Inlined name template nodes nodes')
    (hnodes : ∀ node ∈ nodes, node.Every IsStandard) :
    R Unit (renderAll fetch nodes) (renderAll fetch' nodes') := by
  have hsame : ∀ {nodes : List Node}, (∀ node ∈ nodes, node.Every IsStandard) →
      R Unit (renderAll fetch nodes) (renderAll fetch' nodes) :=
    fun hnodes => hR.renderAll_standard hfetch hnodes
  have hoptional : ∀ {nodes : Option (List Node)},
      (∀ body ∈ nodes, ∀ node ∈ body, node.Every IsStandard) →
      R Unit (renderOptional fetch nodes) (renderOptional fetch' nodes) :=
    fun hnodes => hR.renderOptional fun body hbody node hmem =>
      hR.render_standard hfetch (hnodes body hbody node hmem)
  have hbranches : ∀ {branches : List (Condition × List Node)},
      (∀ branch ∈ branches, ∀ node ∈ branch.2, node.Every IsStandard) →
      List.Forall₂ (Render.Parallel.BranchAlike (fun _ => True) R fetch fetch') branches
        branches := by
    intro branches hbodies
    rw [List.forall₂_same]
    exact fun branch hmem => ⟨rfl, fun _ _ => trivial, hsame (hbodies branch hmem)⟩
  -- In each case one part of the first node is replaced; the other parts, and the nodes after
  -- it, are the same on both sides.
  induction h with
  | here e rest hquoted =>
    obtain ⟨_, hrest⟩ := List.forall_mem_cons.1 hnodes
    rw [renderAll_append, renderAll, render_inclusion_quoted hquoted]
    exact hR.bind htemplate fun _ => hsame hrest
  | later node h ih =>
    obtain ⟨hnode, hrest⟩ := List.forall_mem_cons.1 hnodes
    exact hR.bind (hR.render_standard hfetch hnode) fun _ => ih hrest
  | binding names rest h ih =>
    obtain ⟨hnode, hrest⟩ := List.forall_mem_cons.1 hnodes
    have hbody := ih hnode.binding_body
    exact hR.bind (hR.renderBinding (fun _ _ => trivial) hbody) fun _ => hsame hrest
  | @branch before condition body body' after otherwise rest h ih =>
    obtain ⟨hnode, hrest⟩ := List.forall_mem_cons.1 hnodes
    obtain ⟨hbefore, hlater⟩ := List.forall_mem_append.1 hnode.choice_branch
    obtain ⟨hbody, hafter⟩ := List.forall_mem_cons.1 hlater
    have hreplaced : Render.Parallel.BranchAlike (fun _ => True) R fetch fetch' (condition, body)
        (condition, body') := ⟨rfl, fun _ _ => trivial, ih hbody⟩
    have hall := List.rel_append (hbranches hbefore) (.cons hreplaced (hbranches hafter))
    have hother := hoptional hnode.choice_otherwise
    exact hR.bind (hR.renderChoice hall hother) fun _ => hsame hrest
  | otherwise branches rest h ih =>
    obtain ⟨hnode, hrest⟩ := List.forall_mem_cons.1 hnodes
    have hall := hbranches hnode.choice_branch
    have hother := ih (hnode.choice_otherwise _ rfl)
    exact hR.bind (hR.renderChoice hall hother) fun _ => hsame hrest
  | loop targets items reversed empty rest h ih =>
    obtain ⟨hnode, hrest⟩ := List.forall_mem_cons.1 hnodes
    have hbody := ih hnode.loop_body
    have hempty := hoptional hnode.loop_empty
    exact hR.bind (hR.renderLoop trivial hbody hempty) fun _ => hsame hrest
  | empty targets items reversed body rest h ih =>
    obtain ⟨hnode, hrest⟩ := List.forall_mem_cons.1 hnodes
    have hbody := hsame hnode.loop_body
    have hempty : R Unit (renderOptional fetch (some _)) (renderOptional fetch' (some _)) :=
      ih (hnode.loop_empty _ rfl)
    exact hR.bind (hR.renderLoop trivial hbody hempty) fun _ => hsame hrest

end Node

def TooDeep {α : Type} (outcome : Except Error α) : Prop :=
  ∃ name, outcome = .error (.includeDepth name)

namespace Render

/-- The second computation does the same as the first one wherever the inclusions of the first
do not nest too deep. -/
def Deepens {α : Type} (m m' : Render α) : Prop := ∀ s, TooDeep (m s).1 ∨ m' s = m s

variable {α β : Type}

theorem Deepens.refl (m : Render α) : Deepens m m := fun _ => Or.inr rfl

/-- What goes on behind two computations that agree agrees as well. -/
theorem Deepens.bind {m m' : Render α} {f f' : α → Render β} (hm : Deepens m m')
    (hf : ∀ a, Deepens (f a) (f' a)) : Deepens (m >>= f) (m' >>= f') := by
  intro s
  rcases Attempt.bind_run_cases m f s with ⟨a, t, hrun, hseq⟩ | ⟨e, t, hrun, hseq⟩
  · have hsame : m' s = (.ok a, t) := by
      rcases hm s with ⟨name, hdeep⟩ | hsame
      · rw [hrun] at hdeep
        cases hdeep
      · rw [hsame, hrun]
    rw [hseq, Attempt.bind_of_ok hsame]
    exact hf a t
  · rcases hm s with hdeep | hsame
    · left
      rw [hrun] at hdeep
      obtain ⟨name, hname⟩ := hdeep
      obtain rfl := Except.error.inj hname
      exact ⟨name, by rw [hseq]⟩
    · right
      rw [hseq, Attempt.bind_of_error (hsame.trans hrun)]

theorem Deepens.within {m m' : Render α} (hm : Deepens m m') (frame : Frame) :
    Deepens (within frame m) (within frame m') := by
  intro s
  rcases hm { s with scope := s.scope.push frame } with hdeep | hsame
  · exact Or.inl hdeep
  · right
    simp only [Render.within, hsame]

theorem deepens_parallel : Parallel (fun _ => True) fun _ m m' => Deepens m m' where
  pure _ := .refl _
  fail _ := .refl _
  write _ _ := .refl _
  writeValue _ := .refl _
  evaluate _ _ := .refl _
  decide _ _ := .refl _
  parent := .refl _
  bindings _ _ := .refl _
  bind := Deepens.bind
  within frame _ _ hm := hm.within frame

theorem within_nil {m : Render α} (hm : SeeOnly (fun _ => True) m m) : within [] m = m := by
  funext s
  have halike := hm { s with scope := s.scope.push [] } s rfl (Scope.agree_push_nil _ s.scope)
  have hscope : (within [] m s).2.scope = (m s).2.scope :=
    (scope_within halike.scope).trans halike.scope'.symm
  have houtput : (within [] m s).2.output = (m s).2.output := halike.output
  exact Prod.ext halike.outcome (congrArg₂ RenderState.mk hscope houtput)

end Render

namespace Engine

variable {engine : Engine}

/-- Inclusions that do not nest too deep for one depth do the same at the next. -/
theorem renderNamed_deepens (hengine : engine.catalog.HasOnlyStandardTags) (depth : Nat)
    (name : String) :
    Render.Deepens (engine.renderNamed depth name) (engine.renderNamed (depth + 1) name) := by
  induction depth generalizing name with
  | zero => exact fun _ => Or.inl ⟨name, rfl⟩
  | succ depth ih => exact Render.deepens_parallel.renderNamed_succ hengine ih name

/-- An included template renders as its nodes do. -/
theorem renderNamed_of_load (hengine : engine.catalog.HasOnlyStandardTags) {name : String}
    {template : Template} (hload : engine.load name = .ok (some template)) (depth : Nat) :
    engine.renderNamed (depth + 1) name =
      Node.renderAll (engine.renderNamed depth) template.nodes := by
  have hsee : Render.Parallel (fun _ => True) fun _ m m' => Render.SeeOnly (fun _ => True) m m' :=
    (Render.seeOnly_parallel trivial).mono fun _ _ _ _ => trivial
  obtain ⟨source, hcompile⟩ := firstTemplate_compile hload
  have hnodes := hsee.renderAll_compile hengine hcompile (hsee.renderNamed hengine depth)
  rw [renderNamed, hload]
  exact Render.within_nil hnodes

end Engine

namespace Context

variable {ctx : Context} {engine : Engine}

theorem fetch_of_engine (h : ctx.engine = some engine) (depth : Nat) :
    ctx.fetch depth = engine.renderNamed depth := by
  funext name
  rw [fetch, h]

/-- A template of the standard tags that includes another one by its quoted name renders as it
does with the nodes of the other in the place of the inclusion: to the same outcome, output and
context. Where one of the two ends at some depth of inclusions, so does the other, which may
need one more if it is the one that includes. -/
theorem renderTo_inlined (hctx : ctx.engine = some engine)
    (hengine : engine.catalog.HasOnlyStandardTags) {name : String} {template : Template}
    (hload : engine.load name = .ok (some template)) {catalog : Catalog}
    (hcatalog : catalog.HasOnlyStandardTags) {trim : Bool} {source : String}
    {nodes nodes' : List Node} (hcompile : catalog.compile trim source = .ok nodes)
    (hinlined : Node.Inlined name template.nodes nodes nodes') :
    (∀ depth output, ¬ TooDeep (ctx.renderTo depth nodes output).1 →
      ctx.renderTo depth nodes' output = ctx.renderTo depth nodes output) ∧
    (∀ depth output, ¬ TooDeep (ctx.renderTo depth nodes' output).1 →
      ctx.renderTo (depth + 1) nodes output = ctx.renderTo depth nodes' output) ∧
    (¬ TooDeep (ctx.render nodes).1 → ctx.render nodes' = ctx.render nodes) := by
  have hstandard := Catalog.isStandard_of_compile hcatalog hcompile
  have hdeepens := Engine.renderNamed_deepens hengine
  have htemplate := Engine.renderNamed_of_load hengine hload
  -- The nodes of the template in place of its inclusion save the depth that it takes.
  have hout : ∀ depth, Render.Deepens (Node.renderAll (engine.renderNamed depth) nodes)
      (Node.renderAll (engine.renderNamed depth) nodes') := by
    intro depth
    refine hinlined.parallel Render.deepens_parallel (fun _ => .refl _) ?_ hstandard
    have hname := hdeepens depth name
    rwa [htemplate] at hname
  have hin : ∀ depth, Render.Deepens (Node.renderAll (engine.renderNamed depth) nodes')
      (Node.renderAll (engine.renderNamed (depth + 1)) nodes) := by
    intro depth
    refine hinlined.parallel (R := fun _ m m' => Render.Deepens m' m)
      Render.deepens_parallel.swap (hdeepens depth) ?_ hstandard
    rw [htemplate]
    exact .refl _
  have hto : ∀ depth output, ¬ TooDeep (ctx.renderTo depth nodes output).1 →
      ctx.renderTo depth nodes' output = ctx.renderTo depth nodes output := by
    intro depth output hends
    rw [renderTo, fetch_of_engine hctx] at hends
    rw [renderTo, renderTo, fetch_of_engine hctx, (hout depth _).resolve_left hends]
  refine ⟨hto, ?_, ?_⟩
  · intro depth output hends
    rw [renderTo, fetch_of_engine hctx] at hends
    rw [renderTo, renderTo, fetch_of_engine hctx, fetch_of_engine hctx,
      (hin depth _).resolve_left hends]
  · intro hends
    have hsame := hto Engine.includeDepth {} ?_
    · rw [render, render, hsame]
    · rintro ⟨name, hdeep⟩
      exact hends ⟨name, by simp only [render, hdeep, Except.map]⟩

/-- The included template shows a name of the binding around its inclusion. -/
theorem renderTo_inlined_binding :
    let engine := Engine.withDefaults.addLoader (Loader.memory [("b", "{{ a }}")])
    let ctx : Context := { scope := { root := [("x", .int 7)] }, engine := some engine }
    ∃ nodes nodes',
      Engine.withDefaults.catalog.compile false
        "\x7b% with a=x %\x7d\x7b% include 'b' %\x7d\x7b% endwith %\x7d" = .ok nodes ∧
      Engine.withDefaults.catalog.compile false "{% with a=x %}{{ a }}{% endwith %}" =
        .ok nodes' ∧
      (ctx.renderTo 1 nodes {}).1 = .ok () ∧ (ctx.renderTo 1 nodes {}).2.1.text = "7" ∧
      ctx.renderTo 1 nodes' {} = ctx.renderTo 1 nodes {} := by
  intro engine ctx
  let shown : Expression := { source := "a", head := .path ["a"], calls := [] }
  let quoted : Expression := { source := "'b'", head := .literal (.safe "b"), calls := [] }
  let names : List (String × Expression) :=
    [("a", { source := "x", head := .path ["x"], calls := [] })]
  have hcatalog := Engine.withDefaults_hasStandardTags.only
  have hengine : engine.catalog.HasOnlyStandardTags := hcatalog
  have hcompile : Engine.withDefaults.catalog.compile false
      "\x7b% with a=x %\x7d\x7b% include 'b' %\x7d\x7b% endwith %\x7d" =
        .ok [.binding names [.inclusion quoted]] := by
    let item : Item := .binding ⟨.tag .block, "with a=x", 1⟩ names
      [.inclusion ⟨.tag .block, "include 'b'", 1⟩ quoted] ⟨.tag .block, "endwith", 1⟩
    have hinclusion : Item.IsInclusion Engine.withDefaults.catalog.filter? "'b'" quoted :=
      ⟨"'b'", by decide +kernel, by rfl⟩
    have hitem : Item.AllWellFormed Engine.withDefaults.catalog.filter? [item] :=
      ⟨⟨by rfl, by rfl, ⟨⟨by rfl, hinclusion⟩, trivial⟩, by rfl⟩, trivial⟩
    exact Catalog.compile_of_derives Engine.withDefaults_hasStandardTags
      ⟨hitem, by decide +kernel⟩
  have hcompile' : Engine.withDefaults.catalog.compile false
      "{% with a=x %}{{ a }}{% endwith %}" = .ok [.binding names [.expression shown]] := by
    have htokens : Token.scan false "{% with a=x %}{{ a }}{% endwith %}" =
        [⟨.tag .block, "with a=x", 1⟩, ⟨.tag .expression, "a", 1⟩,
          ⟨.tag .block, "endwith", 1⟩] := by
      decide +kernel
    rw [Catalog.compile, htokens]
    rfl
  have hload : engine.load "b" = .ok (some ⟨"b", [.expression shown]⟩) := by
    have htokens : Token.scan false "{{ a }}" = [⟨.tag .expression, "a", 1⟩] := by decide +kernel
    have hread : engine.compile "b" "{{ a }}" = .ok ⟨"b", [.expression shown]⟩ := by
      change Template.compile Engine.withDefaults.catalog false "b" "{{ a }}" = _
      rw [Template.compile, Catalog.compile, htokens]
      rfl
    rw [Engine.load, Engine.firstTemplate_eq]
    exact congrArg (Except.map some) hread
  have hinlined : Node.Inlined "b" [.expression shown] [.binding names [.inclusion quoted]]
      [.binding names [.expression shown]] := .binding names [] (.here quoted [] ⟨rfl, rfl⟩)
  have houtcome : (ctx.renderTo 1 [.binding names [.inclusion quoted]] {}).1 = .ok () := by
    decide +kernel
  have hends : ¬ TooDeep (ctx.renderTo 1 [.binding names [.inclusion quoted]] {}).1 := by
    rintro ⟨name, hname⟩
    simp [houtcome] at hname
  refine ⟨_, _, hcompile, hcompile', houtcome, ?_, ?_⟩
  · decide +kernel
  · exact (renderTo_inlined rfl hengine hload hcatalog hcompile hinlined).1 1 {} hends

end Context

end TextTemplate
