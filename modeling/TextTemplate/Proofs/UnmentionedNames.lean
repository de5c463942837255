import TextTemplate.Proofs.SeenNames

/-!
Names that a template does not mention cannot change its output. A template that includes
nothing looks up only the names that its paths start from and the loop record; contexts that
agree on these render it alike, whatever else their frames hold.
-/
namespace TextTemplate

def Node.IncludesNothing : Node → Prop
  | .inclusion _ => False
  | _ => True

theorem Node.IncludesNothing.includesAlike {R : (α : Type) → Render α → Render α → Prop}
    {fetch fetch' : String → Render Unit} {node : Node} (h : node.IncludesNothing)
    (hnode : node.IsStandard) : node.IncludesAlike R fetch fetch' := by
  cases node with
  | inclusion name => exact h.elim
  | host node bodies => exact hnode.elim
  | _ => trivial

namespace Context

variable {ctx ctx' : Context}

/-- Two contexts with the same flags give a template without inclusions the same outcome,
output and text if they give the same meaning to the loop record and to every name that a
path in the template starts from. -/
theorem render_eq_of_mentioned {catalog : Catalog} (hcatalog : catalog.HasOnlyStandardTags)
    {trim : Bool} {source : String} {nodes : List Node}
    (hcompile : catalog.compile trim source = .ok nodes)
    (hincludes : ∀ node ∈ nodes, node.Every Node.IncludesNothing)
    (hautoescape : ctx.scope.autoescape = ctx'.scope.autoescape)
    (hstrict : ctx.scope.strict = ctx'.scope.strict)
    (hforloop : ctx.scope.lookup "forloop" = ctx'.scope.lookup "forloop")
    (hmentioned : ∀ node ∈ nodes, node.Every fun node => ∀ e ∈ node.expressions,
      ∀ name ∈ e.firstNames, ctx.scope.lookup name = ctx'.scope.lookup name) :
    (∀ depth depth' output,
      (ctx.renderTo depth nodes output).1 = (ctx'.renderTo depth' nodes output).1 ∧
        (ctx.renderTo depth nodes output).2.1 = (ctx'.renderTo depth' nodes output).2.1) ∧
      (ctx.render nodes).1 = (ctx'.render nodes).1 := by
  -- The names to agree on are simply those on which the contexts do agree.
  let N : String → Prop := fun name => ctx.scope.lookup name = ctx'.scope.lookup name
  have hagree : ctx.scope.Agree N ctx'.scope := ⟨hautoescape, hstrict, fun _ hname => hname⟩
  have hparallel := Render.seeOnly_parallel (N := N) hforloop
  have hnodes : ∀ fetch fetch',
      Render.SeeOnly N (Node.renderAll fetch nodes) (Node.renderAll fetch' nodes) := by
    intro fetch fetch'
    refine hparallel.renderAll ?_
    intro node hmem
    have hstandard := Catalog.isStandard_of_compile hcatalog hcompile node hmem
    refine hparallel.render node ?_ (hmentioned node hmem)
    exact ((hincludes node hmem).and hstandard).mono fun _ h => h.1.includesAlike h.2
  have hto : ∀ depth depth' output, Render.EndAlike (Node.renderAll (ctx.fetch depth) nodes)
      (Node.renderAll (ctx'.fetch depth') nodes) ⟨ctx.scope, output⟩ ⟨ctx'.scope, output⟩ :=
    fun depth depth' _ => hnodes (ctx.fetch depth) (ctx'.fetch depth') _ _ rfl hagree
  refine ⟨fun depth depth' output => ⟨(hto depth depth' output).outcome,
    (hto depth depth' output).output⟩, ?_⟩
  have hlast := hto Engine.includeDepth Engine.includeDepth {}
  simp only [render, renderTo, hlast.outcome, hlast.output]

def guardedSum : Expression where
  source := "x|add:y"
  head := .path ["x"]
  calls :=
    [{ name := "add"
       filter := Filters.withArgument Filters.add
       argument := some (.path ["y"]) }]

def guardedSumTemplate : Node :=
  .choice [(.operand { source := "x", head := .path ["x"], calls := [] },
    [.expression guardedSum])] none

theorem compile_guardedSum :
    Engine.withDefaults.catalog.compile false "{% if x %}{{ x|add:y }}{% endif %}" =
      .ok [guardedSumTemplate] := by
  have htokens : Token.scan false "{% if x %}{{ x|add:y }}{% endif %}" =
      [⟨.tag .block, "if x", 1⟩, ⟨.tag .expression, "x|add:y", 1⟩, ⟨.tag .block, "endif", 1⟩] := by
    decide +kernel
  rw [Catalog.compile, htokens]
  with_unfolding_all rfl

theorem every_guardedSum {P : Node → Prop} (hchoice : P guardedSumTemplate)
    (hbody : P (.expression guardedSum)) : guardedSumTemplate.Every P := by
  refine .intro _ hchoice (List.forall_mem_singleton.2 (List.forall_mem_singleton.2 ?_))
  exact .leaf hbody rfl

/-- One name stands in another frame, one is hidden and one is not mentioned. -/
theorem render_eq_of_mentioned_frames :
    let ctx : Context := { scope := { root := [("x", .int 1), ("y", .int 3), ("z", .int 4)] } }
    let ctx' : Context :=
      { scope := { pushed := [[("y", .int 3)]], root := [("y", .str "hidden"), ("x", .int 1)] } }
    ∃ nodes, Engine.withDefaults.catalog.compile false
        "{% if x %}{{ x|add:y }}{% endif %}" = .ok nodes ∧
      (ctx.render nodes).1 = .ok "4" ∧ (ctx'.render nodes).1 = .ok "4" := by
  intro ctx ctx'
  have hx : ∀ name ∈ ["x"], ctx.scope.lookup name = ctx'.scope.lookup name :=
    List.forall_mem_singleton.2 rfl
  have hxy : ∀ name ∈ ["x", "y"], ctx.scope.lookup name = ctx'.scope.lookup name :=
    List.forall_mem_cons.2 ⟨rfl, List.forall_mem_singleton.2 rfl⟩
  have hmentioned : guardedSumTemplate.Every fun node => ∀ e ∈ node.expressions,
      ∀ name ∈ e.firstNames, ctx.scope.lookup name = ctx'.scope.lookup name :=
    every_guardedSum (List.forall_mem_singleton.2 hx) (List.forall_mem_singleton.2 hxy)
  have hflags : ctx.scope.autoescape = ctx'.scope.autoescape ∧
      ctx.scope.strict = ctx'.scope.strict := ⟨rfl, rfl⟩
  have hforloop : ctx.scope.lookup "forloop" = ctx'.scope.lookup "forloop" := rfl
  have hincludes : guardedSumTemplate.Every Node.IncludesNothing :=
    every_guardedSum trivial trivial
  have hsame := render_eq_of_mentioned Engine.withDefaults_hasStandardTags.only compile_guardedSum
    (List.forall_mem_singleton.2 hincludes) hflags.1 hflags.2 hforloop
    (List.forall_mem_singleton.2 hmentioned)
  have hrender : (ctx'.render [guardedSumTemplate]).1 = .ok "4" := by decide +kernel
  exact ⟨_, compile_guardedSum, hsame.2.trans hrender, hrender⟩

end Context

end TextTemplate
