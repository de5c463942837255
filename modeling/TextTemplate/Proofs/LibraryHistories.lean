import Mathlib.Data.List.Induction
import TextTemplate.Proofs.LibrarySearches

/-!
The life of an engine, as far as libraries go. Where an engine looks for libraries can be read
off what was done to it: resolvers are asked in the order in which they were added, the last
maker added for a plugin counts, and so do the last directories set. What an engine remembers
can be read off the loads that were made: of each name the first one that succeeded. Both are
kept by every operation, and so they hold after any number of them.
-/
namespace TextTemplate

namespace Engine

/-- What can be done to an engine. The files may change at any time. -/
inductive Operation where
  | addResolver (resolver : Resolver)
  | addPlugin (name : String) (maker : LibraryMaker)
  | setPluginDirs (dirs : List String)
  | changeFiles (files : FileTree)
  | addDefault (name : String)
  | removeDefault (name : String)
  | register (library : Library)
  | load (name : String)
  | use (name : String)
  | loadDefaults

def loadsOfUses (engine : Engine) : List String → List (String × Option Library)
  | [] => []
  | name :: rest =>
    (name, (engine.loadLibrary name).1) :: loadsOfUses (engine.useLibrary name).2 rest

namespace Operation

def run (engine : Engine) : Operation → Engine
  | .addResolver resolver => engine.addResolver resolver
  | .addPlugin name maker => engine.addPlugin name maker
  | .setPluginDirs dirs => engine.setPluginDirs dirs
  | .changeFiles files => { engine with files := files }
  | .addDefault name => engine.addDefaultLibrary name
  | .removeDefault name => engine.removeDefaultLibrary name
  | .register library => engine.registerLibrary library
  | .load name => (engine.loadLibrary name).2
  | .use name => (engine.useLibrary name).2
  | .loadDefaults => engine.loadDefaultLibraries

def loads (engine : Engine) : Operation → List (String × Option Library)
  | .load name => [(name, (engine.loadLibrary name).1)]
  | .use name => loadsOfUses engine [name]
  | .loadDefaults => loadsOfUses engine engine.config.defaultLibraries
  | _ => []

end Operation

structure History where
  engine : Engine
  loads : List (String × Option Library) := []

namespace History

def start (config : Config) (files : FileTree) : History := { engine := ofConfig config files }

def perform (history : History) (op : Operation) : History :=
  { engine := op.run history.engine
    loads := history.loads ++ op.loads history.engine }

def performAll (history : History) (ops : List Operation) : History := ops.foldl perform history

def firstLoaded (loads : List (String × Option Library)) (name : String) : Option Library :=
  loads.findSome? fun load => if load.1 = name then load.2 else none

end History

namespace Operation

def host? : Operation → Option Resolver
  | .addResolver resolver => some resolver
  | _ => none

def maker? (name : String) : Operation → Option LibraryMaker
  | .addPlugin other maker => if other = name then some maker else none
  | _ => none

def pluginDirs? : Operation → Option (List String)
  | .setPluginDirs dirs => some dirs
  | _ => none

def files? : Operation → Option FileTree
  | .changeFiles files => some files
  | _ => none

def last? {α : Type} (f : Operation → Option α) (ops : List Operation) : Option α :=
  ops.reverse.findSome? f

theorem last?_concat {α : Type} (f : Operation → Option α) (ops : List Operation)
    (op : Operation) : last? f (ops ++ [op]) = (f op).or (last? f ops) := by
  simp only [last?, List.reverse_append, List.reverse_singleton, List.singleton_append,
    List.findSome?_cons]
  cases f op <;> rfl

end Operation

/-- What there is of a library at a version after the operations: what the first resolver with
an answer gives, in the order in which they were added, or else a plugin that is installed in
one of the directories, or else a built-in library. -/
def offered (config : Config) (files : FileTree) (ops : List Operation) (name : String)
    (version : Version) : Option Library :=
  let dirs := (Operation.last? Operation.pluginDirs? ops).getD config.pluginDirs
  let files := (Operation.last? Operation.files? ops).getD files
  ((ops.filterMap Operation.host?).findSome? fun resolver => resolver name version).or
    ((if PluginTable.isInstalled files dirs name version then
        (Operation.last? (Operation.maker? name) ops).map fun maker => maker version
      else none).or
      (builtin.resolve name version))

/-- The operations say where the engine looks for libraries. -/
structure Looks (config : Config) (files : FileTree) (ops : List Operation) (engine : Engine) :
    Prop where
  major : engine.config.versionMajor = config.versionMajor
  highest : engine.config.versionMinor = config.versionMinor
  lowest : engine.config.minPluginVersion = config.minPluginVersion
  resolvers : engine.resolvers = ops.filterMap Operation.host?
  makers : ∀ name, Entries.get? engine.plugins.makers name =
    Operation.last? (Operation.maker? name) ops
  dirs : engine.plugins.dirs = (Operation.last? Operation.pluginDirs? ops).getD config.pluginDirs
  files : engine.files = (Operation.last? Operation.files? ops).getD files

/-- What an operation says about the places to look at is what changes between two engines. -/
structure Changes (op : Operation) (engine engine' : Engine) : Prop where
  major : engine'.config.versionMajor = engine.config.versionMajor
  highest : engine'.config.versionMinor = engine.config.versionMinor
  lowest : engine'.config.minPluginVersion = engine.config.minPluginVersion
  resolvers : engine'.resolvers = engine.resolvers ++ op.host?.toList
  makers : ∀ name, Entries.get? engine'.plugins.makers name =
    (op.maker? name).or (Entries.get? engine.plugins.makers name)
  dirs : engine'.plugins.dirs = op.pluginDirs?.getD engine.plugins.dirs
  files : engine'.files = op.files?.getD engine.files

/-- Two engines that differ at most in their catalogs, in what they remember and in their
default libraries look for libraries at the same places. -/
structure LooksAlike (engine engine' : Engine) : Prop where
  config : engine'.config =
    { engine.config with defaultLibraries := engine'.config.defaultLibraries }
  resolvers : engine'.resolvers = engine.resolvers
  plugins : engine'.plugins = engine.plugins
  files : engine'.files = engine.files

theorem LooksAlike.trans {a b c : Engine} (hab : a.LooksAlike b) (hbc : b.LooksAlike c) :
    a.LooksAlike c where
  config := by rw [hbc.config, hab.config]
  resolvers := hbc.resolvers.trans hab.resolvers
  plugins := hbc.plugins.trans hab.plugins
  files := hbc.files.trans hab.files

/-- An operation that says nothing of the places to look at. -/
theorem LooksAlike.changes {engine engine' : Engine} (h : engine.LooksAlike engine')
    {op : Operation} (hhost : op.host? = none) (hmaker : ∀ name, op.maker? name = none)
    (hdirs : op.pluginDirs? = none) (hfiles : op.files? = none) : Changes op engine engine' where
  major := by rw [h.config]
  highest := by rw [h.config]
  lowest := by rw [h.config]
  resolvers := by rw [h.resolvers, hhost, Option.toList_none, List.append_nil]
  makers name := by rw [h.plugins, hmaker, Option.none_or]
  dirs := by rw [h.plugins, hdirs, Option.getD_none]
  files := by rw [h.files, hfiles, Option.getD_none]

/-- Loading a library only adds to what the engine remembers. -/
theorem looksAlike_loadLibrary (engine : Engine) (name : String) :
    engine.LooksAlike (engine.loadLibrary name).2 := by
  rw [loadLibrary_snd]
  exact ⟨rfl, rfl, rfl, rfl⟩

theorem looksAlike_useLibrary (engine : Engine) (name : String) :
    engine.LooksAlike (engine.useLibrary name).2 := by
  have hload := looksAlike_loadLibrary engine name
  unfold useLibrary
  rcases hrun : engine.loadLibrary name with ⟨found, after⟩
  rw [hrun] at hload
  cases found with
  | none => exact hload
  | some library => exact hload.trans ⟨rfl, rfl, rfl, rfl⟩

theorem looksAlike_useLibraries (engine : Engine) (names : List String) :
    engine.LooksAlike (names.foldl (fun e name => (e.useLibrary name).2) engine) := by
  induction names generalizing engine with
  | nil => exact ⟨rfl, rfl, rfl, rfl⟩
  | cons name names ih => exact (looksAlike_useLibrary engine name).trans (ih _)

/-- The engine changes where it looks as the operation says. -/
theorem changes_run (engine : Engine) (op : Operation) : Changes op engine (op.run engine) := by
  cases op with
  | addResolver resolver => exact ⟨rfl, rfl, rfl, rfl, fun _ => rfl, rfl, rfl⟩
  | addPlugin name maker =>
    refine ⟨rfl, rfl, rfl, (List.append_nil _).symm, ?_, rfl, rfl⟩
    intro other
    simp only [Operation.run, addPlugin, PluginTable.add, Entries.get?_set, Operation.maker?]
    split <;> rfl
  | setPluginDirs dirs =>
    exact ⟨rfl, rfl, rfl, (List.append_nil _).symm, fun _ => rfl, rfl, rfl⟩
  | changeFiles files =>
    exact ⟨rfl, rfl, rfl, (List.append_nil _).symm, fun _ => rfl, rfl, rfl⟩
  | addDefault name =>
    have halike : engine.LooksAlike (engine.addDefaultLibrary name) := ⟨rfl, rfl, rfl, rfl⟩
    exact halike.changes rfl (fun _ => rfl) rfl rfl
  | removeDefault name =>
    have halike : engine.LooksAlike (engine.removeDefaultLibrary name) := ⟨rfl, rfl, rfl, rfl⟩
    exact halike.changes rfl (fun _ => rfl) rfl rfl
  | register library =>
    have halike : engine.LooksAlike (engine.registerLibrary library) := ⟨rfl, rfl, rfl, rfl⟩
    exact halike.changes rfl (fun _ => rfl) rfl rfl
  | load name => exact (looksAlike_loadLibrary engine name).changes rfl (fun _ => rfl) rfl rfl
  | use name => exact (looksAlike_useLibrary engine name).changes rfl (fun _ => rfl) rfl rfl
  | loadDefaults => exact (looksAlike_useLibraries engine _).changes rfl (fun _ => rfl) rfl rfl

section

variable {config : Config} {files : FileTree} {ops : List Operation} {engine engine' : Engine}

theorem looks_start (config : Config) (files : FileTree) :
    Looks config files [] (ofConfig config files) :=
  ⟨rfl, rfl, rfl, rfl, fun _ => rfl, rfl, rfl⟩

/-- One more operation, and the engine looks where it says. -/
theorem Looks.after (h : Looks config files ops engine) {op : Operation}
    (hchanges : Changes op engine engine') : Looks config files (ops ++ [op]) engine' where
  major := hchanges.major.trans h.major
  highest := hchanges.highest.trans h.highest
  lowest := hchanges.lowest.trans h.lowest
  resolvers := by
    rw [hchanges.resolvers, h.resolvers, List.filterMap_append]
    cases hhost : op.host? <;> simp [hhost]
  makers name := by rw [hchanges.makers, h.makers, Operation.last?_concat]
  dirs := by
    rw [hchanges.dirs, h.dirs, Operation.last?_concat]
    cases op.pluginDirs? <;> rfl
  files := by
    rw [hchanges.files, h.files, Operation.last?_concat]
    cases op.files? <;> rfl

theorem Looks.offer (h : Looks config files ops engine) (name : String) (version : Version) :
    engine.offer name version = offered config files ops name version := by
  rw [Engine.offer, offered, PluginTable.resolve_eq, h.resolvers, h.makers, h.dirs, h.files]

end

namespace History

def Remembers (history : History) : Prop :=
  ∀ name, Entries.get? history.engine.libraries name = firstLoaded history.loads name

theorem firstLoaded_append (first second : List (String × Option Library)) (name : String) :
    firstLoaded (first ++ second) name = (firstLoaded first name).or (firstLoaded second name) :=
  List.findSome?_append

theorem firstLoaded_singleton (name other : String) (outcome : Option Library) :
    firstLoaded [(name, outcome)] other = if name = other then outcome else none :=
  List.findSome?_singleton

variable {engine : Engine} {loads : List (String × Option Library)}

/-- A load is remembered unless there was a successful one of that name before. -/
theorem Remembers.load (h : Remembers ⟨engine, loads⟩) (name : String) :
    Remembers ⟨(engine.loadLibrary name).2, loads ++ [(name, (engine.loadLibrary name).1)]⟩ := by
  intro other
  have hother : Entries.get? engine.libraries other = firstLoaded loads other := h other
  rw [firstLoaded_append, firstLoaded_singleton, ← hother]
  exact get?_libraries_loadLibrary engine name other

theorem Remembers.use (h : Remembers ⟨engine, loads⟩) (name : String) :
    Remembers ⟨(engine.useLibrary name).2, loads ++ [(name, (engine.loadLibrary name).1)]⟩ := by
  have hlibraries : (engine.useLibrary name).2.libraries =
      (engine.loadLibrary name).2.libraries := by
    unfold useLibrary
    rcases engine.loadLibrary name with ⟨found, after⟩
    cases found <;> rfl
  intro other
  have hload := h.load name other
  rw [← hload, hlibraries]

theorem Remembers.uses (h : Remembers ⟨engine, loads⟩) (names : List String) :
    Remembers ⟨names.foldl (fun e name => (e.useLibrary name).2) engine,
      loads ++ loadsOfUses engine names⟩ := by
  induction names generalizing engine loads with
  | nil => rwa [loadsOfUses, List.append_nil]
  | cons name names ih =>
    have hrest := ih (h.use name)
    rwa [List.append_assoc, List.singleton_append] at hrest

/-- Every operation keeps what was loaded first. -/
theorem Remembers.perform {history : History} (h : history.Remembers) (op : Operation) :
    (history.perform op).Remembers := by
  cases op with
  | load name => exact h.load name
  | use name => exact h.use name
  | loadDefaults => exact h.uses _
  | _ =>
    intro name
    change Entries.get? history.engine.libraries name = firstLoaded (history.loads ++ []) name
    rw [List.append_nil, h name]

/-- After any operations an engine looks where they say, and it remembers what was loaded. -/
theorem performAll_looks_remembers (config : Config) (files : FileTree) (ops : List Operation) :
    Looks config files ops ((start config files).performAll ops).engine ∧
      ((start config files).performAll ops).Remembers := by
  induction ops using List.reverseRecOn with
  | nil => exact ⟨looks_start config files, fun _ => rfl⟩
  | append_singleton ops op ih =>
    rw [performAll, List.foldl_append]
    exact ⟨ih.1.after (changes_run _ op), ih.2.perform op⟩

/-- After any operations, loading a library that some load has given before gives that very
library and asks nobody. Any other name is looked up at the greatest allowed version at which
there is such a library, which is then remembered; without such a version nothing is found
and nothing changes. -/
theorem performAll_loadLibrary (config : Config) (files : FileTree) (ops : List Operation)
    (name : String) :
    let history := (start config files).performAll ops
    let engine := history.engine
    let offer := fun minor => offered config files ops name ⟨config.versionMajor, minor⟩
    (∀ library, firstLoaded history.loads name = some library →
        engine.loadLibrary name = (some library, engine) ∧ (engine.search name).asked = []) ∧
      (firstLoaded history.loads name = none →
        (∀ minor library,
          IsNewest offer config.minPluginVersion config.versionMinor minor library →
            engine.loadLibrary name = (some library,
              { engine with libraries := Entries.set engine.libraries name library })) ∧
          ((∀ minor, config.minPluginVersion ≤ minor → minor ≤ config.versionMinor →
              offer minor = none) →
            engine.loadLibrary name = (none, engine))) := by
  intro history engine offer
  obtain ⟨hlooks, hremembers⟩ := performAll_looks_remembers config files ops
  have hoffer : (fun minor => engine.offer name ⟨engine.config.versionMajor, minor⟩) = offer := by
    funext minor
    rw [hlooks.offer, hlooks.major]
  refine ⟨?_, ?_⟩
  · intro library hloaded
    have hold : Entries.get? engine.libraries name = some library := (hremembers name).trans hloaded
    exact ⟨loadLibrary_of_remembered hold, by simp only [search, hold]⟩
  · intro hloaded
    have hnew : Entries.get? engine.libraries name = none := (hremembers name).trans hloaded
    refine ⟨?_, ?_⟩
    · intro minor library hnewest
      rw [← hoffer, ← hlooks.lowest, ← hlooks.highest] at hnewest
      exact loadLibrary_of_newest hnew hnewest
    · intro hnone
      rw [← hlooks.lowest, ← hlooks.highest] at hnone
      exact loadLibrary_of_no_offer hnew fun minor hlow hhigh =>
        (congrFun hoffer minor).trans (hnone minor hlow hhigh)

/-- At the greatest version the resolver that was added first counts, and a library that has
been loaded is not looked for again. -/
theorem performAll_loadLibrary_shadowed :
    let one : Library := { tags := [("one", Tags.commentTag)] }
    let two : Library := { tags := [("two", Tags.commentTag)] }
    let only (minor : Nat) (library : Library) : Resolver := fun name version =>
      if name = "lib" ∧ version.minor = minor then some library else none
    let ops : List Operation :=
      [.load "lib", .addResolver (only 1 two), .addResolver (only 2 one),
        .addResolver (only 2 two)]
    let later : List Operation :=
      [.addResolver (only 1 one), .use "lib", .addPlugin "lib" fun _ => two]
    (((start {} .empty).performAll ops).engine.loadLibrary "lib").1 = some one ∧
      (((start {} .empty).performAll (ops ++ later)).engine.loadLibrary "lib").1 = some one := by
  intro one two only ops later
  have hfirst := (performAll_loadLibrary {} .empty ops "lib").2 rfl
  have hlater := (performAll_loadLibrary {} .empty (ops ++ later) "lib").1 one rfl
  have hnewest : IsNewest (fun minor => offered {} .empty ops "lib" ⟨1, minor⟩) 0 2 2 one :=
    ⟨by decide, by decide, rfl, by omega⟩
  exact ⟨congrArg Prod.fst (hfirst.1 2 one hnewest), congrArg Prod.fst hlater.1⟩

end History

end Engine

end TextTemplate
