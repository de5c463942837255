import TextTemplate.Engine.Basic
import TextTemplate.Proofs.Tables

/-!
What a search for a library finds. At a version the sources are asked in order, so that the
first resolver of the host with an answer counts, then the plugins and then the built-in
libraries. A search from the highest version down ends at the greatest one with an answer.
-/
namespace TextTemplate

namespace PluginTable

def isInstalled (files : FileTree) (dirs : List String) (name : String) (version : Version) :
    Bool :=
  dirs.any fun dir =>
    ((files.list (Path.join dir version.text)).getD []).any fun entry =>
      name.toList.isPrefixOf entry.toList

theorem isSome_locateIn (files : FileTree) (dir name : String) :
    (locateIn files dir name).isSome =
      ((files.list dir).getD []).any fun entry => name.toList.isPrefixOf entry.toList := by
  have hsorted : ∀ names : List String,
      (Catalog.sortNames names).head?.isSome = !names.isEmpty := by
    intro names
    rw [Bool.eq_iff_iff, List.isSome_head?, ← List.length_pos_iff, Catalog.sortNames,
      List.length_mergeSort, List.length_pos_iff]
    simp
  rw [locateIn, Option.isSome_map, hsorted]
  cases hlist : files.list dir with
  | none => simp [matching, hlist]
  | some names =>
    simp only [matching, hlist, Option.getD_some]
    rw [Bool.eq_iff_iff]
    simp

theorem isSome_locate (table : PluginTable) (files : FileTree) (name : String)
    (version : Version) :
    (table.locate files name version).isSome = isInstalled files table.dirs name version := by
  simp only [locate, isInstalled, List.isSome_findSome?, isSome_locateIn]

/-- It does not matter which file stands for a library, nor in which directory it is. -/
theorem resolve_eq (table : PluginTable) (files : FileTree) (name : String) (version : Version) :
    table.resolve files name version =
      if isInstalled files table.dirs name version then
        (Entries.get? table.makers name).map fun maker => maker version
      else none := by
  have hlocate := isSome_locate table files name version
  unfold resolve
  cases Entries.get? table.makers name with
  | none => simp
  | some maker =>
    rw [← hlocate]
    cases table.locate files name version <;> rfl

end PluginTable

namespace Engine

variable (engine : Engine) (name : String)

/-- What the sources have for a version: the answer of the first resolver with one, or else
that of the plugins, or else that of the built-in libraries. -/
def offer (version : Version) : Option Library :=
  (engine.resolvers.findSome? fun resolver => resolver name version).or
    ((engine.plugins.resolve engine.files name version).or (builtin.resolve name version))

theorem found_askAll (version : Version) (sources : List Source) :
    (engine.askAll name version sources).found = sources.findSome? (engine.ask name version) := by
  induction sources with
  | nil => rfl
  | cons source rest ih =>
    rw [askAll, List.findSome?_cons]
    cases engine.ask name version source with
    | none => exact ih
    | some library => rfl

/-- Asking by the numbers of the resolvers is asking the resolvers in order. -/
theorem findSome?_range_resolvers {α : Type} (f : Resolver → Option α) (resolvers : List Resolver) :
    (List.range resolvers.length).findSome? (fun index => resolvers[index]?.bind f) =
      resolvers.findSome? f := by
  induction resolvers with
  | nil => rfl
  | cons resolver rest ih =>
    rw [List.length_cons, List.range_succ_eq_map, List.findSome?_cons, List.findSome?_cons,
      List.findSome?_map, ← ih]
    rfl

/-- What the engine finds by asking all its sources is what they have for the version. -/
theorem found_askAll_sources (version : Version) :
    (engine.askAll name version engine.sources).found = engine.offer name version := by
  rw [found_askAll, sources, List.findSome?_append, List.findSome?_map]
  have hhosts : (List.range engine.resolvers.length).findSome?
      (engine.ask name version ∘ Source.host) =
        engine.resolvers.findSome? fun resolver => resolver name version :=
    findSome?_range_resolvers _ _
  rw [hhosts, offer]
  simp only [List.findSome?_cons, ask, List.findSome?_nil]
  cases engine.plugins.resolve engine.files name version <;>
    cases builtin.resolve name version <;> rfl

variable {engine name} {lowest : Nat}

theorem found_searchDown_eq_none (count : Nat)
    (h : ∀ minor, lowest ≤ minor → minor < lowest + count →
      engine.offer name ⟨engine.config.versionMajor, minor⟩ = none) :
    (engine.searchDown name lowest count).found = none := by
  induction count with
  | zero => rfl
  | succ count ih =>
    have hhere := h (lowest + count) (by omega) (by omega)
    rw [← found_askAll_sources] at hhere
    simp only [searchDown, hhere, Option.isSome_none, Bool.false_eq_true, if_false]
    exact ih fun minor hlow hhigh => h minor hlow (by omega)

/-- The greatest version with an answer gives the library. -/
theorem found_searchDown_eq_some (count : Nat) {minor : Nat} {library : Library}
    (hlowest : lowest ≤ minor) (hhighest : minor < lowest + count)
    (hoffer : engine.offer name ⟨engine.config.versionMajor, minor⟩ = some library)
    (hhigher : ∀ higher, minor < higher → higher < lowest + count →
      engine.offer name ⟨engine.config.versionMajor, higher⟩ = none) :
    (engine.searchDown name lowest count).found = some library := by
  induction count with
  | zero => omega
  | succ count ih =>
    by_cases hhere : minor = lowest + count
    · subst hhere
      rw [← found_askAll_sources] at hoffer
      simp only [searchDown, hoffer, Option.isSome_some, if_true]
    · have hnone := hhigher (lowest + count) (by omega) (by omega)
      rw [← found_askAll_sources] at hnone
      simp only [searchDown, hnone, Option.isSome_none, Bool.false_eq_true, if_false]
      exact ih (by omega) fun higher hlow hhigh => hhigher higher hlow (by omega)

/-- The number is the greatest one within bounds for which there is a library. -/
structure IsNewest (offer : Nat → Option Library) (lowest highest minor : Nat)
    (library : Library) : Prop where
  lowest_le : lowest ≤ minor
  le_highest : minor ≤ highest
  offers : offer minor = some library
  higher : ∀ higher, minor < higher → higher ≤ highest → offer higher = none

theorem loadLibrary_of_remembered {library : Library}
    (h : Entries.get? engine.libraries name = some library) :
    engine.loadLibrary name = (some library, engine) := by
  simp only [loadLibrary, search, h, Entries.set_of_get? h]

/-- A library that is not remembered yet is taken in its newest version and remembered. -/
theorem loadLibrary_of_newest (hnew : Entries.get? engine.libraries name = none) {minor : Nat}
    {library : Library}
    (h : IsNewest (fun minor => engine.offer name ⟨engine.config.versionMajor, minor⟩)
      engine.config.minPluginVersion engine.config.versionMinor minor library) :
    engine.loadLibrary name =
      (some library, { engine with libraries := Entries.set engine.libraries name library }) := by
  have hlowest := h.lowest_le
  have hhighest := h.le_highest
  have hfound := found_searchDown_eq_some
    (engine.config.versionMinor + 1 - engine.config.minPluginVersion) hlowest (by omega)
    h.offers fun higher hlow hhigh => h.higher higher hlow (by omega)
  simp only [loadLibrary, search, hnew, hfound]

theorem loadLibrary_of_no_offer (hnew : Entries.get? engine.libraries name = none)
    (h : ∀ minor, engine.config.minPluginVersion ≤ minor → minor ≤ engine.config.versionMinor →
      engine.offer name ⟨engine.config.versionMajor, minor⟩ = none) :
    engine.loadLibrary name = (none, engine) := by
  have hfound := found_searchDown_eq_none
    (engine.config.versionMinor + 1 - engine.config.minPluginVersion)
    fun minor hlow hhigh => h minor hlow (by omega)
  simp only [loadLibrary, search, hnew, hfound]

/-- A load that succeeds is remembered, and what was remembered before stays. -/
theorem get?_libraries_loadLibrary (engine : Engine) (name other : String) :
    Entries.get? (engine.loadLibrary name).2.libraries other =
      (Entries.get? engine.libraries other).or
        (if name = other then (engine.loadLibrary name).1 else none) := by
  cases hold : Entries.get? engine.libraries name with
  | some library =>
    rw [loadLibrary_of_remembered hold]
    split
    · rename_i heq
      rw [← heq, hold, Option.some_or]
    · rw [Option.or_none]
  | none =>
    unfold loadLibrary
    cases (engine.search name).found with
    | none => simp
    | some library =>
      simp only [Entries.get?_set]
      split
      · rename_i heq
        rw [← heq, hold, Option.none_or]
      · rw [Option.or_none]

/-- Loading changes nothing but what is remembered. -/
theorem loadLibrary_snd (engine : Engine) (name : String) :
    (engine.loadLibrary name).2 =
      { engine with libraries := (engine.loadLibrary name).2.libraries } := by
  unfold loadLibrary
  cases (engine.search name).found <;> rfl

end Engine

end TextTemplate
