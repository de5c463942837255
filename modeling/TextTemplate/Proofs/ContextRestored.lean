import TextTemplate.Engine.Context
import TextTemplate.Proofs.ScopeKept

/-!
Rendering leaves the context alone. The nodes of a template leave the scope alone, and so do
the templates that they include; so the context after a rendering is the one before it.
-/
namespace TextTemplate

namespace Context

variable {ctx : Context}

/-- Templates that are included leave the scope as they found it, at any depth. -/
theorem keepsScope_fetch (hengine : ∀ engine ∈ ctx.engine, engine.catalog.HasOnlyStandardTags)
    (depth : Nat) (name : String) : Render.KeepsScope (ctx.fetch depth name) :=
  Render.keepsScope_closed.fetch hengine depth name

/-- A template of the standard tags, rendered to any output and with any outcome, leaves the
context as it was. -/
theorem renderTo_restores (hengine : ∀ engine ∈ ctx.engine, engine.catalog.HasOnlyStandardTags)
    {catalog : Catalog} (hcatalog : catalog.HasOnlyStandardTags) {trim : Bool} {source : String}
    {nodes : List Node} (hcompile : catalog.compile trim source = .ok nodes) (depth : Nat)
    (output : Output) : (ctx.renderTo depth nodes output).2.2 = ctx := by
  have hnodes : Render.KeepsScope (Node.renderAll (ctx.fetch depth) nodes) := by
    refine Node.keepsScope_renderAll ?_
    intro node hnode
    have hstandard := Catalog.isStandard_of_compile hcatalog hcompile node hnode
    exact Node.keepsScope_render node
      (hstandard.mono (Node.keepsScopeItself_of_isStandard (keepsScope_fetch hengine depth)))
  have hscope := hnodes ⟨ctx.scope, output⟩
  simp only [renderTo]
  rw [hscope]

/-- In the frames of a binding and of an included template, an inclusion fails. -/
theorem renderTo_restores_failed :
    let engine := Engine.withDefaults.addLoader (Loader.memory [("b", "{% include a %}")])
    let ctx : Context :=
      { scope := { root := [("name", .str "b"), ("none", .str "c")] }, engine := some engine }
    let source := "{% with a=none %}{% include name %}{% endwith %}"
    ∃ nodes, Engine.withDefaults.catalog.compile false source = .ok nodes ∧
      (ctx.renderTo 3 nodes {}).1 = .error (.templateNotFound "c") ∧
      (ctx.renderTo 3 nodes {}).2.2 = ctx := by
  intro engine ctx source
  have hcatalog := Engine.withDefaults_hasStandardTags.only
  have hengine : ∀ engine ∈ ctx.engine, engine.catalog.HasOnlyStandardTags := by
    intro engine hsome
    obtain rfl := Option.mem_some_iff.1 hsome
    exact hcatalog
  have hcompile : Engine.withDefaults.catalog.compile false source = .ok
      [.binding [("a", { source := "none", head := .path ["none"], calls := [] })]
        [.inclusion { source := "name", head := .path ["name"], calls := [] }]] := by
    have htokens : Token.scan false source = [⟨.tag .block, "with a=none", 1⟩,
        ⟨.tag .block, "include name", 1⟩, ⟨.tag .block, "endwith", 1⟩] := by
      decide +kernel
    rw [Catalog.compile, htokens]
    rfl
  refine ⟨_, hcompile, ?_, renderTo_restores hengine hcatalog hcompile 3 {}⟩
  decide +kernel

end Context

end TextTemplate
