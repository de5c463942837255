import TextTemplate.Proofs.LoadedTexts

/-!
Where loaded texts come from. A shelf holds texts of its own, or the files below some directories,
of which only the first with a file of the name counts, whether or not that file can be read. So a
name is loaded from the first shelf that holds a text of it, or from none. What the text is read as
decides about the template and the replaceable template alike; only if there is no text do the two
ways of loading differ, since a template that is to be replaced must exist.
-/
namespace TextTemplate

def IsFirst {α : Type} (P : α → Prop) (as : List α) (a : α) : Prop :=
  P a ∧ ∃ before after, as = before ++ a :: after ∧ ∀ b ∈ before, ¬ P b

theorem find?_eq_some_iff_isFirst {α : Type} {p : α → Bool} {as : List α} {a : α} :
    as.find? p = some a ↔ IsFirst (fun a => p a = true) as a := by
  rw [List.find?_eq_some_iff_append, IsFirst]
  simp

theorem findSome?_eq_some_iff_isFirst {α β : Type} {f : α → Option β} {as : List α} {b : β} :
    as.findSome? f = some b ↔ ∃ a, IsFirst (fun a => ∃ b, f a = some b) as a ∧ f a = some b := by
  rw [List.findSome?_eq_some_iff]
  constructor
  · rintro ⟨before, a, after, hsplit, ha, hbefore⟩
    refine ⟨a, ⟨⟨b, ha⟩, before, after, hsplit, ?_⟩, ha⟩
    rintro a' hmem ⟨b', hb'⟩
    rw [hbefore a' hmem] at hb'
    exact nomatch hb'
  · rintro ⟨a, ⟨_, before, after, hsplit, hbefore⟩, ha⟩
    refine ⟨before, a, after, hsplit, ha, ?_⟩
    intro a' hmem
    exact Option.eq_none_iff_forall_ne_some.2 fun b' hb' => hbefore a' hmem ⟨b', hb'⟩

inductive Shelf where
  | memory (sources : List (String × String))
  | directories (disk : Disk) (dirs : List String)

namespace Shelf

def loader : Shelf → Loader
  | memory sources => .memory sources
  | directories disk dirs => .onDisk disk dirs

/-- The text is there under the name. Below directories it is that of the file in the first of
them that has one. -/
def Holds (name text : String) : Shelf → Prop
  | memory sources => Entries.get? sources name = some text
  | directories disk dirs =>
    ∃ dir, IsFirst (fun dir => disk.files.isFile (Path.join dir name) = true) dirs dir ∧
      disk.readText (Path.join dir name) = some text

def FirstHeld (shelves : List Shelf) (name text : String) : Prop :=
  ∃ shelf, IsFirst (fun shelf => ∃ text, shelf.Holds name text) shelves shelf ∧
    shelf.Holds name text

/-- A loader gives the text that its shelf holds. -/
theorem content_loader_eq_some_iff {shelf : Shelf} {name text : String} :
    shelf.loader.content name = some text ↔ shelf.Holds name text := by
  cases shelf with
  | memory sources => exact Iff.rfl
  | directories disk dirs =>
    change (Loader.findFile disk.files dirs name).bind disk.readText = some text ↔ _
    rw [Loader.findFile, List.find?_map, Option.bind_map, Option.bind_eq_some_iff]
    exact exists_congr fun dir => and_congr_left' find?_eq_some_iff_isFirst

/-- Whoever has a text for a name claims the name. -/
theorem canLoad_of_content {shelf : Shelf} {name text : String}
    (h : shelf.loader.content name = some text) : shelf.loader.canLoad name = true := by
  cases shelf with
  | memory sources => exact Option.isSome_of_mem h
  | directories disk dirs =>
    obtain ⟨path, hpath, _⟩ := Option.bind_eq_some_iff.1 h
    exact Option.isSome_of_mem hpath

theorem firstText?_loaders (name : String) (shelves : List Shelf) :
    Loader.firstText? name (shelves.map loader) =
      shelves.findSome? fun shelf => shelf.loader.content name := by
  induction shelves with
  | nil => rfl
  | cons shelf shelves ih =>
    rw [List.map_cons, Loader.firstText?_cons, ih, List.findSome?_cons]
    cases htext : shelf.loader.content name with
    | none => simp
    | some text => rw [canLoad_of_content htext, if_pos rfl, Option.some_or]

/-- Among loaders the first text is that of the first shelf that holds one. -/
theorem firstText?_eq_some_iff {name text : String} {shelves : List Shelf} :
    Loader.firstText? name (shelves.map loader) = some text ↔ FirstHeld shelves name text := by
  rw [firstText?_loaders, findSome?_eq_some_iff_isFirst]
  simp only [content_loader_eq_some_iff]
  exact Iff.rfl

theorem firstText?_eq_none_iff {name : String} {shelves : List Shelf} :
    Loader.firstText? name (shelves.map loader) = none ↔
      ∀ shelf ∈ shelves, ∀ text, ¬ shelf.Holds name text := by
  rw [firstText?_loaders, List.findSome?_eq_none_iff]
  simp only [Option.eq_none_iff_forall_ne_some, ne_eq, content_loader_eq_some_iff]

end Shelf

theorem TemplateStore.get?_added (store : TemplateStore) (template : Template) :
    (store.add template).2.get? (store.add template).1 = some template :=
  List.getElem?_concat_length

namespace Engine

variable {engine : Engine} {name : String}

theorem load_eq_template_iff {template : Template} :
    engine.load name = .ok (some template) ↔
      ∃ text, Loader.firstText? name engine.loaders = some text ∧
        engine.compile name text = .ok template := by
  rw [load, firstTemplate_eq]
  cases Loader.firstText? name engine.loaders with
  | none => simp
  | some text =>
    simp only [Option.some.injEq, exists_eq_left']
    exact ⟨compile_of_map_eq_some, fun h => by rw [h]; rfl⟩

/-- Loading fails if the first text cannot be read, and with the same error. -/
theorem load_eq_error_iff {e : Error} :
    engine.load name = .error e ↔
      ∃ text, Loader.firstText? name engine.loaders = some text ∧
        engine.compile name text = .error e := by
  rw [load, firstTemplate_eq]
  cases Loader.firstText? name engine.loaders with
  | none => simp
  | some text =>
    simp only [Option.some.injEq, exists_eq_left']
    cases engine.compile name text <;> simp [Except.map]

theorem load_eq_none_iff :
    engine.load name = .ok none ↔ Loader.firstText? name engine.loaders = none := by
  rw [load, firstTemplate_eq]
  cases Loader.firstText? name engine.loaders with
  | none => simp
  | some text => cases hread : engine.compile name text <;> simp [hread, Except.map]

/-- The two ways of loading go by the same text. -/
theorem loadReplaceable_eq_load (store : TemplateStore) :
    engine.loadReplaceable store name =
      match engine.load name with
      | .ok (some template) => .ok (store.add template)
      | .ok none => .error (.templateNotFound name)
      | .error e => .error e := by
  rw [loadReplaceable_eq, load, firstTemplate_eq]
  cases Loader.firstText? name engine.loaders with
  | none => rfl
  | some text => cases hread : engine.compile name text <;> simp [hread, Except.map]

/-- Loading a name from shelves gives the template of the first shelf that holds a text of it, or
the error of that text, and nothing if no shelf holds one. As a replaceable template the same
template is added to the store, the same error is given, or the name is not found. -/
theorem load_of_shelves {shelves : List Shelf}
    (hloaders : engine.loaders = shelves.map Shelf.loader) (name : String)
    (store : TemplateStore) :
    (∀ template, engine.load name = .ok (some template) ↔
      ∃ text, Shelf.FirstHeld shelves name text ∧ engine.compile name text = .ok template) ∧
    (∀ e, engine.load name = .error e ↔
      ∃ text, Shelf.FirstHeld shelves name text ∧ engine.compile name text = .error e) ∧
    (engine.load name = .ok none ↔ ∀ shelf ∈ shelves, ∀ text, ¬ shelf.Holds name text) ∧
    (∀ template, engine.load name = .ok (some template) →
      template.name = name ∧ engine.loadReplaceable store name = .ok (store.add template) ∧
        (store.add template).2.get? (store.add template).1 = some template) ∧
    (∀ e, engine.load name = .error e → engine.loadReplaceable store name = .error e) ∧
    (engine.load name = .ok none →
      engine.loadReplaceable store name = .error (.templateNotFound name)) := by
  refine ⟨?_, ?_, ?_, ?_, ?_, ?_⟩
  · intro template
    rw [load_eq_template_iff, hloaders]
    simp only [Shelf.firstText?_eq_some_iff]
  · intro e
    rw [load_eq_error_iff, hloaders]
    simp only [Shelf.firstText?_eq_some_iff]
  · rw [load_eq_none_iff, hloaders]
    exact Shelf.firstText?_eq_none_iff
  · intro template hload
    obtain ⟨text, _, hread⟩ := load_eq_template_iff.1 hload
    refine ⟨(Template.of_compile hread).1, ?_, store.get?_added template⟩
    rw [loadReplaceable_eq_load, hload]
  · intro e hload
    rw [loadReplaceable_eq_load, hload]
  · intro hload
    rw [loadReplaceable_eq_load, hload]

def pageShelves : List Shelf :=
  let files : FileTree := .directory
    [("old", .directory [("page", .file ⟨#[0xff]⟩)]),
      ("new", .directory [("page", .file "late".toUTF8)])]
  [.directories ⟨files, fun _ => none, nofun⟩ ["new"], .directories files.disk ["old", "new"],
    .memory [("page", "kept"), ("broken", "{% endif %}")]]

/-- A file that cannot be read as text is passed over, while a text with a fault ends the search. -/
theorem load_of_shelves_pages :
    let engine : Engine := { Engine.withDefaults with loaders := pageShelves.map Shelf.loader }
    (∃ template, engine.load "page" = .ok (some template) ∧ template.nodes = [.text "kept"] ∧
      engine.loadReplaceable {} "page" = .ok (⟨0⟩, { contents := [template] })) ∧
    (∃ e, engine.load "broken" = .error e ∧ engine.loadReplaceable {} "broken" = .error e) ∧
    engine.load "missing" = .ok none ∧
      engine.loadReplaceable {} "missing" = .error (.templateNotFound "missing") := by
  intro engine
  have hloaders : engine.loaders = pageShelves.map Shelf.loader := rfl
  obtain ⟨hpage, _, _, hadded, _, _⟩ := load_of_shelves hloaders "page" {}
  obtain ⟨_, hbroken, _, _, hfails, _⟩ := load_of_shelves hloaders "broken" {}
  obtain ⟨_, _, hmissing, _, _, hnothing⟩ := load_of_shelves hloaders "missing" {}
  have hkept : engine.load "page" = .ok (some ⟨"page", [.text "kept"]⟩) := by
    refine (hpage _).2 ⟨"kept", Shelf.firstText?_eq_some_iff.1 rfl, ?_⟩
    change Template.compile Engine.withDefaults.catalog false "page" "kept" = _
    have htokens : Token.scan false "kept" = [⟨.text, "kept", 1⟩] := by decide +kernel
    rw [Template.compile, Catalog.compile, htokens]
    rfl
  have hfault : engine.load "broken" = .error (.tagSyntax 1 (.unknownTag "endif")) := by
    refine (hbroken _).2 ⟨"{% endif %}", Shelf.firstText?_eq_some_iff.1 rfl, ?_⟩
    change Template.compile Engine.withDefaults.catalog false "broken" "{% endif %}" = _
    have htokens : Token.scan false "{% endif %}" = [⟨.tag .block, "endif", 1⟩] := by
      decide +kernel
    rw [Template.compile, Catalog.compile, htokens]
    rfl
  have hnone : engine.load "missing" = .ok none := hmissing.2 (Shelf.firstText?_eq_none_iff.1 rfl)
  exact ⟨⟨_, hkept, rfl, (hadded _ hkept).2.1⟩, ⟨_, hfault, hfails _ hfault⟩, hnone,
    hnothing hnone⟩

end Engine

end TextTemplate
