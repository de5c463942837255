import TextTemplate.Proofs.LibraryHistories

/-!
What a catalog holds. Libraries come into it directly, by their names, and with the default
list, and one that is remembered may come in again. The catalog is read off the libraries in
the order in which they were registered: it has the names that one of them has, and of each
name the definition of the last library with that name. Names without a library leave no
trace, and to load the default libraries once more changes nothing.
-/
namespace TextTemplate

namespace Entries

variable {α : Type} {table : List (String × α)} {tables : List (List (String × α))}

def last? (pairs : List (String × α)) (name : String) : Option α := get? pairs.reverse name

/-- What the last one of several lists of pairs has for a name, of those with the name. -/
def latest? (tables : List (List (String × α))) (name : String) : Option α :=
  tables.reverse.findSome? fun pairs => last? pairs name

/-- A further list comes before all that were there. -/
theorem latest?_concat (tables : List (List (String × α))) (pairs : List (String × α))
    (name : String) :
    latest? (tables ++ [pairs]) name = (last? pairs name).or (latest? tables name) := by
  simp only [latest?, List.reverse_append, List.reverse_singleton, List.singleton_append,
    List.findSome?_cons]
  cases last? pairs name <;> rfl

/-- A table has the names of several others, and for each name what the last one with it has. -/
structure Merges (table : List (String × α)) (tables : List (List (String × α))) : Prop where
  distinct : Distinct table
  names : ∀ name, name ∈ names table ↔ ∃ pairs ∈ tables, name ∈ Entries.names pairs
  latest : ∀ name, get? table name = latest? tables name

theorem merges_nil : Merges ([] : List (String × α)) [] where
  distinct := distinct_nil
  names name := by simp [Entries.names]
  latest _ := rfl

/-- One more list of pairs is merged into a table by setting them all. -/
theorem Merges.setAll (h : Merges table tables) (pairs : List (String × α)) :
    Merges (setAll table pairs) (tables ++ [pairs]) where
  distinct := h.distinct.setAll pairs
  names name := by
    rw [mem_names_setAll, h.names, or_comm]
    simp only [List.mem_append, List.mem_singleton, or_and_right, exists_or, exists_eq_left]
  latest name := by rw [get?_setAll, h.latest, latest?_concat, last?]

theorem last?_ofList (pairs : List (String × α)) (name : String) :
    last? (ofList pairs) name = last? pairs name := by
  rw [last?, (distinct_ofList pairs).get?_reverse, ofList, get?_setAll]
  exact Option.or_none

end Entries

namespace Library

inductive Addition where
  | tag (name : String) (tag : Tag)
  | filter (name : String) (filter : Filter)

def add (library : Library) : Addition → Library
  | .tag name tag => library.addTag name tag
  | .filter name filter => library.addFilter name filter

def ofAdditions (additions : List Addition) : Library := additions.foldl add {}

namespace Addition

def tag? : Addition → Option (String × Tag)
  | .tag name definition => some (name, definition)
  | .filter .. => none

def filter? : Addition → Option (String × Filter)
  | .tag .. => none
  | .filter name definition => some (name, definition)

end Addition

/-- Additions in turn come to one table of tags and one of filters. -/
theorem foldl_add (library : Library) (additions : List Addition) :
    additions.foldl add library =
      { tags := Entries.setAll library.tags (additions.filterMap Addition.tag?)
        filters := Entries.setAll library.filters (additions.filterMap Addition.filter?) } := by
  induction additions generalizing library with
  | nil => rfl
  | cons addition additions ih =>
    rw [List.foldl_cons, ih]
    cases addition <;> rfl

end Library

namespace Catalog

/-- The tags and the filters of a catalog are those of several libraries. -/
structure Merges (catalog : Catalog) (libraries : List Library) : Prop where
  tags : Entries.Merges catalog.tags (libraries.map (·.tags))
  filters : Entries.Merges catalog.filters (libraries.map (·.filters))

theorem merges_nil : Merges {} [] := ⟨Entries.merges_nil, Entries.merges_nil⟩

variable {catalog : Catalog} {libraries : List Library}

theorem Merges.register (h : catalog.Merges libraries) (library : Library) :
    (catalog.register library).Merges (libraries ++ [library]) where
  tags := by
    rw [List.map_append]
    exact h.tags.setAll library.tags
  filters := by
    rw [List.map_append]
    exact h.filters.setAll library.filters

/-- Libraries registered in turn are merged into the catalog, by induction on them. -/
theorem Merges.registerAll (h : catalog.Merges libraries) (more : List Library) :
    (more.foldl Catalog.register catalog).Merges (libraries ++ more) := by
  induction more generalizing catalog libraries with
  | nil => rwa [List.append_nil]
  | cons library more ih =>
    have hrest := ih (h.register library)
    rwa [List.append_assoc, List.singleton_append] at hrest

theorem foldl_register (catalog : Catalog) (libraries : List Library) :
    libraries.foldl register catalog =
      { tags := Entries.setAll catalog.tags (libraries.flatMap (·.tags))
        filters := Entries.setAll catalog.filters (libraries.flatMap (·.filters)) } := by
  induction libraries generalizing catalog with
  | nil => rfl
  | cons library libraries ih =>
    rw [List.foldl_cons, ih]
    simp only [register, Entries.setAll, List.flatMap_cons, List.foldl_append]

/-- Libraries that are registered once more leave the catalog as it is. -/
theorem Merges.registerAll_registerAll (h : catalog.Merges libraries) (more : List Library) :
    more.foldl Catalog.register (more.foldl Catalog.register catalog) =
      more.foldl Catalog.register catalog := by
  simp only [foldl_register, h.tags.distinct.setAll_setAll, h.filters.distinct.setAll_setAll]

end Catalog

namespace Engine

variable {engine engine' : Engine} {name : String} {names : List String}

theorem LooksAlike.offer (h : engine.LooksAlike engine') (name : String) (version : Version) :
    engine'.offer name version = engine.offer name version := by
  rw [Engine.offer, Engine.offer, h.resolvers, h.plugins, h.files]

/-- Engines that look alike find the same library. -/
theorem LooksAlike.found_searchDown (h : engine.LooksAlike engine') (name : String)
    (lowest count : Nat) :
    (engine'.searchDown name lowest count).found = (engine.searchDown name lowest count).found := by
  induction count with
  | zero => rfl
  | succ count ih =>
    have hmajor : engine'.config.versionMajor = engine.config.versionMajor := by rw [h.config]
    simp only [searchDown, apply_ite Search.found, found_askAll_sources, h.offer, hmajor, ih]

theorem useLibrary_snd (engine : Engine) (name : String) :
    (engine.useLibrary name).2 =
      { (engine.loadLibrary name).2 with
        catalog := (engine.loadLibrary name).1.toList.foldl Catalog.register engine.catalog } := by
  have hcatalog : (engine.loadLibrary name).2.catalog = engine.catalog := by
    rw [loadLibrary_snd]
  rw [← hcatalog, useLibrary]
  rcases engine.loadLibrary name with ⟨_ | library, after⟩ <;> rfl

theorem get?_libraries_useLibrary (engine : Engine) (name other : String) :
    Entries.get? (engine.useLibrary name).2.libraries other =
      (Entries.get? engine.libraries other).or
        (if name = other then (engine.loadLibrary name).1 else none) := by
  rw [useLibrary_snd]
  exact get?_libraries_loadLibrary engine name other

theorem fst_loadLibrary_eq_found (engine : Engine) (name : String) :
    (engine.loadLibrary name).1 = (engine.search name).found := by
  unfold loadLibrary
  cases (engine.search name).found <;> rfl

/-- A remembered library comes first, and then the newest one that the sources have. -/
theorem fst_loadLibrary (engine : Engine) (name : String) :
    (engine.loadLibrary name).1 =
      (Entries.get? engine.libraries name).or
        (engine.searchDown name engine.config.minPluginVersion
          (engine.config.versionMinor + 1 - engine.config.minPluginVersion)).found := by
  rw [fst_loadLibrary_eq_found, search]
  cases Entries.get? engine.libraries name <;> rfl

/-- To use a library does not change what a name stands for, not even its own. -/
theorem fst_loadLibrary_useLibrary (engine : Engine) (name other : String) :
    ((engine.useLibrary name).2.loadLibrary other).1 = (engine.loadLibrary other).1 := by
  have halike := looksAlike_useLibrary engine name
  have hlowest : (engine.useLibrary name).2.config.minPluginVersion =
      engine.config.minPluginVersion := by rw [halike.config]
  have hhighest : (engine.useLibrary name).2.config.versionMinor =
      engine.config.versionMinor := by rw [halike.config]
  rw [fst_loadLibrary, hlowest, hhighest, halike.found_searchDown, get?_libraries_useLibrary]
  split
  · rename_i heq
    subst heq
    rw [fst_loadLibrary]
    cases Entries.get? engine.libraries name with
    | some library => rfl
    | none => exact Option.or_self
  · rw [Option.or_none, fst_loadLibrary]

theorem loadLibrary_of_not_found (h : (engine.loadLibrary name).1 = none) :
    engine.loadLibrary name = (none, engine) := by
  rw [fst_loadLibrary_eq_found] at h
  rw [loadLibrary, h]

theorem useLibrary_of_not_found (h : (engine.loadLibrary name).1 = none) :
    engine.useLibrary name = (false, engine) := by
  rw [useLibrary, loadLibrary_of_not_found h]

def useLibraries (engine : Engine) (names : List String) : Engine :=
  names.foldl (fun e name => (e.useLibrary name).2) engine

def found (engine : Engine) (names : List String) : List Library :=
  names.filterMap fun name => (engine.loadLibrary name).1

theorem found_useLibrary (engine : Engine) (name : String) (names : List String) :
    (engine.useLibrary name).2.found names = engine.found names :=
  List.filterMap_congr fun other _ => fst_loadLibrary_useLibrary engine name other

/-- The libraries that are found are registered in the order of their names. -/
theorem catalog_useLibraries (engine : Engine) (names : List String) :
    (engine.useLibraries names).catalog =
      (engine.found names).foldl Catalog.register engine.catalog := by
  induction names generalizing engine with
  | nil => rfl
  | cons name names ih =>
    have hstep : (engine.useLibraries (name :: names)).catalog =
        ((engine.useLibrary name).2.useLibraries names).catalog := rfl
    rw [hstep, ih, found_useLibrary, useLibrary_snd, found, found, List.filterMap_cons]
    cases (engine.loadLibrary name).1 <;> rfl

/-- Names without a library can be left out of a list. -/
theorem useLibraries_filter_found (engine : Engine) (names : List String) :
    engine.useLibraries (names.filter fun name => (engine.loadLibrary name).1.isSome) =
      engine.useLibraries names := by
  induction names generalizing engine with
  | nil => rfl
  | cons name names ih =>
    have hrest := ih (engine.useLibrary name).2
    simp only [fst_loadLibrary_useLibrary] at hrest
    cases hname : (engine.loadLibrary name).1 with
    | none =>
      rw [List.filter_cons_of_neg (by rw [hname]; exact Bool.false_ne_true)]
      rw [useLibrary_of_not_found hname] at hrest
      rw [hrest, useLibraries, useLibraries, List.foldl_cons, useLibrary_of_not_found hname]
    | some library =>
      rw [List.filter_cons_of_pos (by rw [hname]; rfl)]
      exact hrest

def IsSettled (engine : Engine) (name : String) : Prop :=
  Entries.get? engine.libraries name = (engine.loadLibrary name).1

theorem isSettled_useLibrary_self (engine : Engine) (name : String) :
    IsSettled (engine.useLibrary name).2 name := by
  rw [IsSettled, fst_loadLibrary_useLibrary, get?_libraries_useLibrary, if_pos rfl,
    fst_loadLibrary, ← Option.or_assoc, Option.or_self]

theorem IsSettled.useLibrary (h : IsSettled engine name) (other : String) :
    IsSettled (engine.useLibrary other).2 name := by
  rw [IsSettled, fst_loadLibrary_useLibrary, get?_libraries_useLibrary, h]
  split
  · rename_i heq
    rw [heq, Option.or_self]
  · rw [Option.or_none]

theorem IsSettled.useLibraries (h : IsSettled engine name) (names : List String) :
    IsSettled (engine.useLibraries names) name := by
  induction names generalizing engine with
  | nil => exact h
  | cons other names ih => exact ih (h.useLibrary other)

/-- After its use a name is settled, and it stays so. -/
theorem isSettled_useLibraries (engine : Engine) (names : List String) :
    ∀ name ∈ names, IsSettled (engine.useLibraries names) name := by
  induction names generalizing engine with
  | nil => exact List.forall_mem_nil _
  | cons name names ih =>
    refine List.forall_mem_cons.2 ⟨?_, ih _⟩
    exact (isSettled_useLibrary_self engine name).useLibraries names

theorem IsSettled.loadLibrary (h : IsSettled engine name) :
    (engine.loadLibrary name).2 = engine := by
  cases hold : Entries.get? engine.libraries name with
  | some library => rw [loadLibrary_of_remembered hold]
  | none => rw [loadLibrary_of_not_found (h.symm.trans hold)]

/-- Using settled names changes nothing but the catalog. -/
theorem useLibraries_of_settled (h : ∀ name ∈ names, IsSettled engine name) :
    engine.useLibraries names = { engine with catalog := (engine.useLibraries names).catalog } := by
  induction names generalizing engine with
  | nil => rfl
  | cons name names ih =>
    obtain ⟨hname, hnames⟩ := List.forall_mem_cons.1 h
    have hstep := useLibrary_snd engine name
    rw [hname.loadLibrary] at hstep
    have hrest := ih fun other hother => (hnames other hother).useLibrary name
    rw [hstep] at hrest
    rw [useLibraries, List.foldl_cons, hstep]
    exact hrest

theorem config_useLibraries (engine : Engine) (names : List String) :
    (engine.useLibraries names).config = engine.config := by
  induction names generalizing engine with
  | nil => rfl
  | cons name names ih =>
    have hstep : (engine.useLibrary name).2.config = engine.config := by
      rw [useLibrary_snd, loadLibrary_snd]
    exact (ih (engine.useLibrary name).2).trans hstep

/-- Using libraries does not change what is found under other names. -/
theorem found_useLibraries (engine : Engine) (names others : List String) :
    (engine.useLibraries names).found others = engine.found others := by
  induction names generalizing engine with
  | nil => rfl
  | cons name names ih => exact (ih _).trans (found_useLibrary engine name others)

/-- After the default libraries have been loaded, each of them is remembered or there is none,
and to load them again sets the same definitions in the same order. -/
theorem loadDefaultLibraries_loadDefaultLibraries {libraries : List Library}
    (h : engine.catalog.Merges libraries) :
    engine.loadDefaultLibraries.loadDefaultLibraries = engine.loadDefaultLibraries := by
  let names := engine.config.defaultLibraries
  let once := engine.useLibraries names
  have hnames : once.config.defaultLibraries = names := by rw [config_useLibraries]
  have hcatalog : (once.useLibraries names).catalog = once.catalog := by
    rw [catalog_useLibraries, found_useLibraries, catalog_useLibraries,
      h.registerAll_registerAll]
  have htwice := useLibraries_of_settled (isSettled_useLibraries engine names)
  rw [hcatalog] at htwice
  change once.useLibraries once.config.defaultLibraries = once
  rw [hnames, htwice]

def Operation.registers (engine : Engine) : Operation → List Library
  | .register library => [library]
  | .use name => engine.found [name]
  | .loadDefaults => engine.found engine.config.defaultLibraries
  | _ => []

def registered (engine : Engine) : List Operation → List Library
  | [] => []
  | op :: ops => op.registers engine ++ registered (op.run engine) ops

/-- What an operation does to the catalog is to register libraries. -/
theorem catalog_run (engine : Engine) (op : Operation) :
    (op.run engine).catalog = (op.registers engine).foldl Catalog.register engine.catalog := by
  cases op with
  | load name =>
    rw [Operation.run, loadLibrary_snd]
    rfl
  | use name => exact catalog_useLibraries engine [name]
  | loadDefaults => exact catalog_useLibraries engine engine.config.defaultLibraries
  | _ => rfl

namespace History

/-- So the catalog merges the libraries of all operations, by induction on them. -/
theorem merges_performAll (history : History) {libraries : List Library}
    (h : history.engine.catalog.Merges libraries) (ops : List Operation) :
    (history.performAll ops).engine.catalog.Merges
      (libraries ++ registered history.engine ops) := by
  induction ops generalizing history libraries with
  | nil => rwa [registered, List.append_nil]
  | cons op ops ih =>
    have hstep : (history.perform op).engine.catalog.Merges
        (libraries ++ op.registers history.engine) := by
      have hregistered := h.registerAll (op.registers history.engine)
      rwa [← catalog_run] at hregistered
    have hrest := ih (history.perform op) hstep
    rwa [List.append_assoc] at hrest

/-- After any operations the catalog has the names of the libraries that were registered, and
each name stands for what the last of them with the name says, where a library says what was
added to it last. Using a name without a library changes nothing, nor does such a name among
the default libraries, nor does loading these a second time. -/
theorem performAll_catalog (config : Config) (files : FileTree) (ops : List Operation) :
    let engine := ((start config files).performAll ops).engine
    engine.catalog.Merges (registered (ofConfig config files) ops) ∧
      (∀ additions name,
        Entries.last? (Library.ofAdditions additions).tags name =
            Entries.last? (additions.filterMap Library.Addition.tag?) name ∧
          Entries.last? (Library.ofAdditions additions).filters name =
            Entries.last? (additions.filterMap Library.Addition.filter?) name) ∧
      (∀ name, (engine.loadLibrary name).1 = none → engine.useLibrary name = (false, engine)) ∧
      engine.loadDefaultLibraries =
        engine.useLibraries
          (engine.config.defaultLibraries.filter fun name => (engine.loadLibrary name).1.isSome) ∧
      engine.loadDefaultLibraries.loadDefaultLibraries = engine.loadDefaultLibraries := by
  intro engine
  have hmerges : engine.catalog.Merges (registered (ofConfig config files) ops) :=
    merges_performAll (start config files) Catalog.merges_nil ops
  refine ⟨hmerges, ?_, fun name => useLibrary_of_not_found, ?_, ?_⟩
  · intro additions name
    rw [Library.ofAdditions, Library.foldl_add]
    exact ⟨Entries.last?_ofList _ name, Entries.last?_ofList _ name⟩
  · exact (useLibraries_filter_found engine _).symm
  · exact loadDefaultLibraries_loadDefaultLibraries hmerges

/-- A remembered library that is used again comes to count again. -/
theorem performAll_catalog_used_again :
    let early := Library.ofAdditions
      [.tag "note" Tags.ifTag, .tag "note" Tags.commentTag, .tag "each" Tags.forTag]
    let late := Library.ofAdditions [.tag "note" Tags.withTag, .tag "show" Tags.includeTag]
    let host : Resolver := fun name _ => if name = "early" then some early else none
    let ops : List Operation :=
      [.addResolver host, .addDefault "missing", .addDefault "early", .loadDefaults,
        .register late, .use "missing"]
    let config : Config := { defaultLibraries := [] }
    let before := ((start config .empty).performAll ops).engine
    let after := ((start config .empty).performAll (ops ++ [.use "early"])).engine
    before.catalog.tag? "note" = some Tags.withTag ∧
      after.catalog.tag? "note" = some Tags.commentTag ∧
      after.catalog.tag? "show" = some Tags.includeTag ∧
      after.useLibrary "missing" = (false, after) := by
  intro early late host ops config before after
  have hevaluated :
      registered (ofConfig config .empty) ops = [early, late] ∧
        registered (ofConfig config .empty) (ops ++ [.use "early"]) = [early, late, early] ∧
        Entries.latest? [early.tags, late.tags] "note" = some Tags.withTag ∧
        Entries.latest? [early.tags, late.tags, early.tags] "note" = some Tags.commentTag ∧
        Entries.latest? [early.tags, late.tags, early.tags] "show" = some Tags.includeTag ∧
        (after.loadLibrary "missing").1 = none := by
    -- Without local names the terms are closed, which makes them easy to evaluate.
    revert early late config
    exact ⟨rfl, rfl, rfl, rfl, rfl, rfl⟩
  obtain ⟨hfirst, hall, hlate, hearly, hshow, hnone⟩ := hevaluated
  obtain ⟨hbefore, _⟩ := performAll_catalog config .empty ops
  obtain ⟨hafter, _, hmissing, _⟩ := performAll_catalog config .empty (ops ++ [.use "early"])
  rw [hfirst] at hbefore
  rw [hall] at hafter
  refine ⟨?_, ?_, ?_, hmissing "missing" hnone⟩
  · rw [Catalog.tag?, hbefore.tags.latest]
    exact hlate
  · rw [Catalog.tag?, hafter.tags.latest]
    exact hearly
  · rw [Catalog.tag?, hafter.tags.latest]
    exact hshow

end History

end Engine

end TextTemplate
