import TextTemplate.Json.Form
import TextTemplate.Json.Number
import TextTemplate.Text.Outline
import TextTemplate.Text.Quoted

/-!
The configuration of an engine, and its JSON form. A configuration is written as an object,
in which unknown names are passed over and missing ones keep their defaults, or as a list
of the fields in order, of which the last ones may be missing. Each known name may occur
once, numbers are whole and fit into 32 bits, and nothing may be null.
-/
namespace TextTemplate

structure Config where
  strictVariables : Bool := false
  autoescape : Bool := true
  trimBlocks : Bool := false
  pluginDirs : List String := []
  versionMajor : Nat := 1
  versionMinor : Nat := 2
  minPluginVersion : Nat := 0
  defaultLibraries : List String := ["defaulttags", "loadertags", "defaultfilters"]
deriving DecidableEq

namespace Config

open Json

/-- The names of the fields, in the order of the list form. -/
def fieldNames : List String :=
  ["strict_variables", "autoescape", "trim_blocks", "plugin_dirs", "version_major",
    "version_minor", "min_plugin_version", "default_libraries"]

def readBool : Form → Option Bool
  | .bool b => some b
  | _ => none

def readNumber : Form → Option Nat
  | .number n =>
    match integer? n with
    | some value => if 0 ≤ value ∧ value < 0x100000000 then some value.toNat else none
    | none => none
  | _ => none

def readText : Form → Option String
  | .text parts => decodeText parts
  | _ => none

def readTexts : Form → Option (List String)
  | .list items => items.mapM readText
  | _ => none

/-- Sets the field at a place in the list form. -/
def setField (config : Config) (place : Nat) (form : Form) : Option Config :=
  match place with
  | 0 => (readBool form).map fun b => { config with strictVariables := b }
  | 1 => (readBool form).map fun b => { config with autoescape := b }
  | 2 => (readBool form).map fun b => { config with trimBlocks := b }
  | 3 => (readTexts form).map fun texts => { config with pluginDirs := texts }
  | 4 => (readNumber form).map fun n => { config with versionMajor := n }
  | 5 => (readNumber form).map fun n => { config with versionMinor := n }
  | 6 => (readNumber form).map fun n => { config with minPluginVersion := n }
  | 7 => (readTexts form).map fun texts => { config with defaultLibraries := texts }
  | _ => none

/-- Sets the fields from the given place on. -/
def ofItems (config : Config) (place : Nat) : List Form → Option Config
  | [] => some config
  | form :: rest => (config.setField place form).bind fun c => c.ofItems (place + 1) rest

/-- Sets the fields that members name; `seen` holds the names that have occurred. -/
def ofMembers (config : Config) (seen : List String) :
    List (List Part × Form) → Option Config
  | [] => some config
  | (parts, form) :: rest =>
    match decodeText parts with
    | none => none
    | some name =>
      match fieldNames.idxOf? name with
      | none => config.ofMembers seen rest
      | some place =>
        if name ∈ seen then none
        else (config.setField place form).bind fun c => c.ofMembers (name :: seen) rest

def ofForm : Form → Option Config
  | .object members => ofMembers {} [] members
  | .list items => ofItems {} 0 items
  | _ => none

/-- Reads the JSON form of a configuration. -/
def read (s : String) : Option Config := (Form.read s.toList).bind ofForm

def withPluginDir (config : Config) (dir : String) : Config :=
  { config with pluginDirs := config.pluginDirs ++ [dir] }

def withVersion (config : Config) (major minor : Nat) : Config :=
  { config with versionMajor := major, versionMinor := minor }

def outline (config : Config) : String :=
  Outline.record "EngineConfig"
    [("strict_variables", Outline.bool config.strictVariables),
      ("autoescape", Outline.bool config.autoescape),
      ("trim_blocks", Outline.bool config.trimBlocks),
      ("plugin_dirs", Outline.list (config.pluginDirs.map Text.quote)),
      ("version_major", toString config.versionMajor),
      ("version_minor", toString config.versionMinor),
      ("min_plugin_version", toString config.minPluginVersion),
      ("default_libraries", Outline.list (config.defaultLibraries.map Text.quote))]

end Config

end TextTemplate
