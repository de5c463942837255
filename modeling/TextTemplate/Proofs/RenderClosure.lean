import TextTemplate.Engine.Context
import TextTemplate.Proofs.LoadedTexts
import TextTemplate.Proofs.ParallelRenderings

/-!
Properties of renderings. What nodes do by themselves and the ways in which they put
computations together are few. A property that all of these keep is had by every tree, by
induction on the nodes, and by every template that a tree includes, by induction on the
depth to which inclusions nest, because an engine reads its templates with its own catalog.
-/
namespace TextTemplate

/-- The property is had by the steps of a rendering, and it passes on to sequences and to
what runs within a frame. -/
structure Render.Closed (P : (α : Type) → Render α → Prop) : Prop where
  pure : ∀ {α : Type} (a : α), P α (Pure.pure a)
  fail : ∀ {α : Type} (e : Error), P α (Attempt.fail e)
  write : ∀ (origin : Origin) (text : String), P Unit (Render.write origin text)
  writeValue : ∀ v : Value, P Unit (Render.writeValue v)
  evaluate : ∀ e : Expression, P Value (Render.evaluate e)
  decide : ∀ c : Condition, P Bool (Render.decide c)
  valueOf : ∀ name : String, P Value (Render.valueOf name)
  bindings : ∀ names : List (String × Expression),
    P Frame (Render.ofScope fun scope => Node.resolveBindings scope [] names)
  bind : ∀ {α β : Type} {m : Render α} {f : α → Render β}, P α m → (∀ a, P β (f a)) →
    P β (m >>= f)
  within : ∀ (frame : Frame) {m : Render Unit}, P Unit m → P Unit (Render.within frame m)

namespace Node

def HandsOn (P : (α : Type) → Render α → Prop) : Node → Prop
  | .host node _ => ∀ bodies : List (Render Unit), (∀ body ∈ bodies, P Unit body) →
      P Unit (node.render bodies)
  | _ => True

/-- What the node includes has the property, and a node of the host program has it if its bodies
do. -/
def IncludesOnly (P : (α : Type) → Render α → Prop) (fetch : String → Render Unit) : Node → Prop
  | .inclusion _ => ∀ name, P Unit (fetch name)
  | .host node bodies => HandsOn P (.host node bodies)
  | _ => True

theorem HandsOn.includesOnly {P : (α : Type) → Render α → Prop} {fetch : String → Render Unit}
    (hfetch : ∀ name, P Unit (fetch name)) {node : Node} (h : node.HandsOn P) :
    node.IncludesOnly P fetch := by
  cases node with
  | inclusion name => exact hfetch
  | host node bodies => exact h
  | _ => trivial

theorem IsStandard.handsOn {P : (α : Type) → Render α → Prop} {node : Node}
    (h : node.IsStandard) : node.HandsOn P := by
  cases node with
  | host node bodies => exact h.elim
  | _ => trivial

end Node

namespace Render.Closed

variable {P : (α : Type) → Render α → Prop} {fetch : String → Render Unit}

/-- A property relates each rendering that has it to itself. -/
theorem parallel (hP : Closed P) : Parallel (fun _ => True) fun α m m' => m = m' ∧ P α m where
  pure a := ⟨rfl, hP.pure a⟩
  fail e := ⟨rfl, hP.fail e⟩
  write origin text := ⟨rfl, hP.write origin text⟩
  writeValue v := ⟨rfl, hP.writeValue v⟩
  evaluate e _ := ⟨rfl, hP.evaluate e⟩
  decide c _ := ⟨rfl, hP.decide c⟩
  parent := ⟨rfl, hP.valueOf "forloop"⟩
  bindings names _ := ⟨rfl, hP.bindings names⟩
  bind := by
    rintro α β m _ f f' ⟨rfl, hm⟩ hf
    obtain rfl : f = f' := funext fun a => (hf a).1
    exact ⟨rfl, hP.bind hm fun a => (hf a).2⟩
  within := by
    rintro frame m _ ⟨rfl, hm⟩
    exact ⟨rfl, hP.within frame hm⟩

theorem renderAll (hP : Closed P) {nodes : List Node}
    (h : ∀ node ∈ nodes, P Unit (Node.render fetch node)) :
    P Unit (Node.renderAll fetch nodes) :=
  (hP.parallel.renderAll fun node hmem => ⟨rfl, h node hmem⟩).2

/-- A tree whose inclusions have the property has it. -/
theorem render (hP : Closed P) (node : Node) (hnode : node.Every (Node.IncludesOnly P fetch)) :
    P Unit (Node.render fetch node) := by
  have hincludes : ∀ node : Node, node.IncludesOnly P fetch →
      node.IncludesAlike (fun α m m' => m = m' ∧ P α m) fetch fetch := by
    intro node hnode
    cases node with
    | inclusion name => exact fun name => ⟨rfl, hnode name⟩
    | host node bodies =>
      intro bodies bodies' hbodies
      obtain ⟨hall, hsame⟩ := (List.forall₂_and_left _ _).1 (hbodies.imp fun _ _ h => And.symm h)
      rw [List.forall₂_eq_eq_eq] at hsame
      subst hsame
      exact ⟨rfl, hnode bodies hall⟩
    | _ => trivial
  exact (hP.parallel.render node (hnode.mono hincludes) (hnode.mono fun _ _ _ _ => trivial)).2

end Render.Closed

namespace Render.Parallel

variable {R : (α : Type) → Render α → Render α → Prop} {engine : Engine}

/-- A template that was read with the standard tags is related to itself if what it includes
is related. -/
theorem renderAll_compile (hR : Parallel (fun _ => True) R) {catalog : Catalog}
    (hcatalog : catalog.HasOnlyStandardTags) {trim : Bool} {source : String} {nodes : List Node}
    (hcompile : catalog.compile trim source = .ok nodes) {fetch fetch' : String → Render Unit}
    (hfetch : ∀ name, R Unit (fetch name) (fetch' name)) :
    R Unit (Node.renderAll fetch nodes) (Node.renderAll fetch' nodes) :=
  hR.renderAll_standard hfetch (Catalog.isStandard_of_compile hcatalog hcompile)

/-- Templates of the same name are related if those that they include are. -/
theorem renderNamed_succ (hR : Parallel (fun _ => True) R)
    (hengine : engine.catalog.HasOnlyStandardTags) {depth depth' : Nat}
    (h : ∀ name, R Unit (engine.renderNamed depth name) (engine.renderNamed depth' name))
    (name : String) :
    R Unit (engine.renderNamed (depth + 1) name) (engine.renderNamed (depth' + 1) name) := by
  unfold Engine.renderNamed
  cases hload : engine.load name with
  | error e => exact hR.fail e
  | ok found =>
    cases found with
    | none => exact hR.fail _
    | some template =>
      obtain ⟨source, hcompile⟩ := Engine.firstTemplate_compile hload
      exact hR.within [] (hR.renderAll_compile hengine hcompile h)

/-- Included templates are related to themselves, however deep inclusions nest. -/
theorem renderNamed (hR : Parallel (fun _ => True) R)
    (hengine : engine.catalog.HasOnlyStandardTags) (depth : Nat) (name : String) :
    R Unit (engine.renderNamed depth name) (engine.renderNamed depth name) := by
  induction depth generalizing name with
  | zero => exact hR.fail _
  | succ depth ih => exact hR.renderNamed_succ hengine ih name

end Render.Parallel

namespace Render.Closed

variable {P : (α : Type) → Render α → Prop}

/-- A template that was read with the standard tags has the property if what it includes
does. -/
theorem renderAll_compile (hP : Closed P) {catalog : Catalog}
    (hcatalog : catalog.HasOnlyStandardTags) {trim : Bool} {source : String} {nodes : List Node}
    (hcompile : catalog.compile trim source = .ok nodes) {included : String → Render Unit}
    (hincluded : ∀ name, P Unit (included name)) : P Unit (Node.renderAll included nodes) :=
  (hP.parallel.renderAll_compile hcatalog hcompile fun name => ⟨rfl, hincluded name⟩).2

/-- Included templates have the property, however deep inclusions nest. -/
theorem renderNamed (hP : Closed P) {engine : Engine}
    (hengine : engine.catalog.HasOnlyStandardTags) (depth : Nat) (name : String) :
    P Unit (engine.renderNamed depth name) :=
  (hP.parallel.renderNamed hengine depth name).2

/-- Included templates have the property if those that the engine finds hand it on. -/
theorem renderNamed_of_handsOn (hP : Closed P) {engine : Engine}
    (hengine : ∀ name template, engine.load name = .ok (some template) →
      ∀ node ∈ template.nodes, node.Every (Node.HandsOn P)) (depth : Nat) (name : String) :
    P Unit (engine.renderNamed depth name) := by
  induction depth generalizing name with
  | zero => exact hP.fail _
  | succ depth ih =>
    unfold Engine.renderNamed
    cases hload : engine.load name with
    | error e => exact hP.fail e
    | ok found =>
      cases found with
      | none => exact hP.fail _
      | some template =>
        refine hP.within [] (hP.renderAll ?_)
        intro node hmem
        have hnode := hengine name template hload node hmem
        exact hP.render node (hnode.mono fun _ h => h.includesOnly ih)

theorem fetch (hP : Closed P) {ctx : Context}
    (hengine : ∀ engine ∈ ctx.engine, engine.catalog.HasOnlyStandardTags) (depth : Nat)
    (name : String) : P Unit (ctx.fetch depth name) := by
  unfold Context.fetch
  split
  · exact hP.fail _
  · rename_i engine hsome
    exact hP.renderNamed (hengine engine hsome) depth name

end Render.Closed

end TextTemplate
