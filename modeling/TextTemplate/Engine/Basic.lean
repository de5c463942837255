import TextTemplate.Catalog.Search
import TextTemplate.Engine.Config
import TextTemplate.Engine.Loader
import TextTemplate.Filters.Standard
import TextTemplate.Tags.Standard
import TextTemplate.Template.Store

/-!
Engines. An engine holds the catalog that templates are read with, the loaders that find
templates by name, and the sources of libraries. A library is searched for from the newest
minor version down to the lowest allowed one; at each version the host's resolvers are
asked in order, then the plugins, then the built-in libraries. What was found once is
remembered and given again.
-/
namespace TextTemplate

structure Engine where
  config : Config := {}
  files : FileTree := .empty
  catalog : Catalog := {}
  loaders : List Loader := []
  resolvers : List Resolver := []
  plugins : PluginTable := {}
  libraries : List (String × Library) := []

namespace Engine

/-- The built-in libraries, which are the same at every version. -/
def builtin : LibraryTable where
  unversioned :=
    [("defaulttags", fun _ => Tags.standard), ("loadertags", fun _ => Tags.loading),
      ("defaultfilters", fun _ => Filters.standard)]

/-- An engine with an empty catalog. -/
def ofConfig (config : Config) (files : FileTree) : Engine :=
  { config := config, files := files, plugins := { dirs := config.pluginDirs } }

/-- A source of libraries: a resolver of the host by its number, or one of the engine's. -/
inductive Source where
  | host (index : Nat)
  | plugins
  | builtin
deriving DecidableEq

/-- All sources, in the order in which they are asked. -/
def sources (engine : Engine) : List Source :=
  (List.range engine.resolvers.length).map .host ++ [.plugins, .builtin]

def ask (engine : Engine) (name : String) (version : Version) : Source → Option Library
  | .host index => engine.resolvers[index]?.bind fun resolver => resolver name version
  | .plugins => engine.plugins.resolve engine.files name version
  | .builtin => builtin.resolve name version

/-- A search: the questions asked, and the answer to the last of them if it had one. -/
structure Search where
  asked : List (Source × Version) := []
  found : Option Library := none

/-- Asks the sources one after the other until one answers. -/
def askAll (engine : Engine) (name : String) (version : Version) : List Source → Search
  | [] => {}
  | source :: rest =>
    match engine.ask name version source with
    | some library => { asked := [(source, version)], found := some library }
    | none =>
      let later := engine.askAll name version rest
      { later with asked := (source, version) :: later.asked }

/-- Searches the given number of minor versions, the highest first, the lowest of which is
`lowest`. -/
def searchDown (engine : Engine) (name : String) (lowest : Nat) : Nat → Search
  | 0 => {}
  | count + 1 =>
    let version : Version := ⟨engine.config.versionMajor, lowest + count⟩
    let here := engine.askAll name version engine.sources
    if here.found.isSome then here
    else
      let lower := engine.searchDown name lowest count
      { lower with asked := here.asked ++ lower.asked }

/-- The search for a library, which asks nothing if the library is remembered. -/
def search (engine : Engine) (name : String) : Search :=
  match Entries.get? engine.libraries name with
  | some library => { found := some library }
  | none =>
    let lowest := engine.config.minPluginVersion
    engine.searchDown name lowest (engine.config.versionMinor + 1 - lowest)

/-- Finds a library and remembers it. -/
def loadLibrary (engine : Engine) (name : String) : Option Library × Engine :=
  match (engine.search name).found with
  | none => (none, engine)
  | some library =>
    (some library, { engine with libraries := Entries.set engine.libraries name library })

/-- Adds a library to the catalog, where its definitions replace earlier ones. -/
def registerLibrary (engine : Engine) (library : Library) : Engine :=
  { engine with catalog := engine.catalog.register library }

/-- Finds a library and adds it to the catalog. The flag says whether it was found. -/
def useLibrary (engine : Engine) (name : String) : Bool × Engine :=
  match engine.loadLibrary name with
  | (none, engine) => (false, engine)
  | (some library, engine) => (true, engine.registerLibrary library)

/-- Adds all default libraries that can be found. -/
def loadDefaultLibraries (engine : Engine) : Engine :=
  engine.config.defaultLibraries.foldl (fun e name => (e.useLibrary name).2) engine

/-- An engine with the default configuration and the default libraries. -/
def withDefaults : Engine := (ofConfig {} .empty).loadDefaultLibraries

def addLoader (engine : Engine) (loader : Loader) : Engine :=
  { engine with loaders := engine.loaders ++ [loader] }

def addResolver (engine : Engine) (resolver : Resolver) : Engine :=
  { engine with resolvers := engine.resolvers ++ [resolver] }

def addPlugin (engine : Engine) (name : String) (maker : LibraryMaker) : Engine :=
  { engine with plugins := engine.plugins.add name maker }

def setPluginDirs (engine : Engine) (dirs : List String) : Engine :=
  { engine with
    plugins := engine.plugins.setDirs dirs
    config := { engine.config with pluginDirs := dirs } }

def addDefaultLibrary (engine : Engine) (name : String) : Engine :=
  { engine with
    config :=
      { engine.config with defaultLibraries := engine.config.defaultLibraries ++ [name] } }

def removeDefaultLibrary (engine : Engine) (name : String) : Engine :=
  { engine with
    config :=
      { engine.config with
        defaultLibraries := engine.config.defaultLibraries.filter (· != name) } }

/-- The first address, other than an empty one, that a loader gives for a file. -/
def mediaUri (engine : Engine) (file : String) : Option String :=
  (engine.loaders.filterMap fun loader => loader.mediaUri file).find? (· != "")

def compile (engine : Engine) (name source : String) : Except Error Template :=
  Template.compile engine.catalog engine.config.trimBlocks name source

/-- The template of a name in one loader, if the loader gives a text for it. -/
def loadFrom (engine : Engine) (loader : Loader) (name : String) :
    Except Error (Option Template) :=
  match loader.content name with
  | none => .ok none
  | some source => (engine.compile name source).map some

/-- Goes through loaders in order. Those that do not claim the name are passed over, and so
are those that claim it but give nothing; a text that cannot be read ends the search. -/
def firstTemplate (engine : Engine) (name : String) : List Loader → Except Error (Option Template)
  | [] => .ok none
  | loader :: rest =>
    if loader.canLoad name then
      match engine.loadFrom loader name with
      | .error e => .error e
      | .ok (some template) => .ok (some template)
      | .ok none => engine.firstTemplate name rest
    else engine.firstTemplate name rest

/-- The template of a name. -/
def load (engine : Engine) (name : String) : Except Error (Option Template) :=
  engine.firstTemplate name engine.loaders

/-- Goes through loaders that claim the name, for a template that must exist. -/
def firstReplaceable (engine : Engine) (store : TemplateStore) (name : String) :
    List Loader → Except Error (Handle × TemplateStore)
  | [] => .error (.templateNotFound name)
  | loader :: rest =>
    match engine.loadFrom loader name with
    | .error e => .error e
    | .ok none => engine.firstReplaceable store name rest
    | .ok (some template) => .ok (store.add template)

/-- Makes a replaceable template of the template of a name. -/
def loadReplaceable (engine : Engine) (store : TemplateStore) (name : String) :
    Except Error (Handle × TemplateStore) :=
  engine.firstReplaceable store name (engine.loaders.filter fun loader => loader.canLoad name)

/-- Replaces the content of a template by a text read with the engine's catalog. -/
def setContent (engine : Engine) (store : TemplateStore) (handle : Handle) (source : String) :
    Except Error TemplateStore :=
  store.setContent handle engine.catalog engine.config.trimBlocks source

def outline (engine : Engine) : String :=
  Outline.openRecord "Engine"
    [("config", engine.config.outline),
      ("registry", engine.catalog.outline),
      ("loaders", toString engine.loaders.length),
      ("libraries", Outline.list ((Entries.names engine.libraries).map Text.quote))]

end Engine

end TextTemplate
