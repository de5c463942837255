import TextTemplate.Engine.Basic

/-!
Loading by name. A search through loaders comes down to a text, that of the first loader that
claims the name and has a text for it. What the search gives is what this text reads as, and it
is the same whether or not the template is to be replaceable.
-/
namespace TextTemplate

namespace Loader

/-- The text of a name in the first of the loaders that claims it and has a text for it. -/
def firstText? (name : String) (loaders : List Loader) : Option String :=
  (loaders.filter fun loader => loader.canLoad name).findSome? fun loader => loader.content name

theorem firstText?_cons (name : String) (loader : Loader) (rest : List Loader) :
    firstText? name (loader :: rest) =
      if loader.canLoad name then (loader.content name).or (firstText? name rest)
      else firstText? name rest := by
  rw [firstText?, List.filter_cons]
  split
  · rw [List.findSome?_cons]
    cases loader.content name <;> rfl
  · rfl

end Loader

namespace Template

/-- A template has the name that it was asked for by and the nodes of its text. -/
theorem of_compile {catalog : Catalog} {trim : Bool} {name source : String} {template : Template}
    (h : compile catalog trim name source = .ok template) :
    template.name = name ∧ catalog.compile trim source = .ok template.nodes := by
  unfold compile at h
  cases hcompile : catalog.compile trim source with
  | error e => simp [hcompile, Except.map] at h
  | ok nodes =>
    obtain rfl : ⟨name, nodes⟩ = template := by simpa [hcompile, Except.map] using h
    exact ⟨rfl, rfl⟩

end Template

namespace Engine

variable {engine : Engine} {name : String}

theorem compile_of_map_eq_some {text : String} {template : Template}
    (h : (engine.compile name text).map some = .ok (some template)) :
    engine.compile name text = .ok template := by
  cases hcompile : engine.compile name text with
  | error e => simp [hcompile, Except.map] at h
  | ok found => simpa [hcompile, Except.map] using h

/-- A loader gives a template if it has a text that can be read. -/
theorem exists_text_of_loadFrom {loader : Loader} {template : Template}
    (h : engine.loadFrom loader name = .ok (some template)) :
    ∃ text, loader.content name = some text ∧ engine.compile name text = .ok template := by
  unfold loadFrom at h
  cases htext : loader.content name with
  | none => simp [htext] at h
  | some text =>
    rw [htext] at h
    exact ⟨text, rfl, compile_of_map_eq_some h⟩

variable (engine name)

/-- The first text alone decides what is loaded: no later loader is asked after a fault in it. -/
theorem firstTemplate_eq (loaders : List Loader) :
    engine.firstTemplate name loaders =
      match Loader.firstText? name loaders with
      | none => .ok none
      | some text => (engine.compile name text).map some := by
  induction loaders with
  | nil => rfl
  | cons loader rest ih =>
    rw [firstTemplate, ih, Loader.firstText?_cons]
    split
    · rw [loadFrom]
      cases loader.content name with
      | none => rfl
      | some text => cases hcompile : engine.compile name text <;> simp [hcompile, Except.map]
    · rfl

theorem firstReplaceable_eq (store : TemplateStore) (loaders : List Loader) :
    engine.firstReplaceable store name loaders =
      match loaders.findSome? fun loader => loader.content name with
      | none => .error (.templateNotFound name)
      | some text => (engine.compile name text).map store.add := by
  induction loaders with
  | nil => rfl
  | cons loader rest ih =>
    rw [firstReplaceable, ih, List.findSome?_cons, loadFrom]
    cases loader.content name with
    | none => rfl
    | some text => cases hcompile : engine.compile name text <;> simp [hcompile, Except.map]

/-- A replaceable template is made of the first text of the name, which must exist. -/
theorem loadReplaceable_eq (store : TemplateStore) :
    engine.loadReplaceable store name =
      match Loader.firstText? name engine.loaders with
      | none => .error (.templateNotFound name)
      | some text => (engine.compile name text).map store.add :=
  engine.firstReplaceable_eq name store _

variable {engine name}

/-- A template that a loader serves was read with the engine's catalog. -/
theorem firstTemplate_compile {loaders : List Loader} {template : Template}
    (h : engine.firstTemplate name loaders = .ok (some template)) :
    ∃ source, engine.catalog.compile engine.config.trimBlocks source = .ok template.nodes := by
  rw [firstTemplate_eq] at h
  cases htext : Loader.firstText? name loaders with
  | none => simp [htext] at h
  | some text =>
    rw [htext] at h
    exact ⟨text, (Template.of_compile (compile_of_map_eq_some h)).2⟩

end Engine

end TextTemplate
