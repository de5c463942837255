import TextTemplate.Catalog.Basic
import TextTemplate.Files.Tree

/-!
Where libraries come from. A library is asked for by name and version. A table answers with
the entry for the minor version, or else with the entry for all versions. A directory of
plugins answers if it holds a file for the version whose name begins with the library's
name, and if the library is known.
-/
namespace TextTemplate

structure Version where
  major : Nat
  minor : Nat
deriving DecidableEq

def Version.text (version : Version) : String :=
  toString version.major ++ "." ++ toString version.minor

/-- Builds a library for a version. -/
abbrev LibraryMaker : Type := Version → Library

/-- Answers with the library of a name at a version, if it has one. -/
abbrev Resolver : Type := String → Version → Option Library

/-- Libraries for single minor versions, and libraries for all versions. -/
structure LibraryTable where
  versioned : List ((String × Nat) × LibraryMaker) := []
  unversioned : List (String × LibraryMaker) := []

namespace LibraryTable

/-- Adds a library for one minor version; the latest addition counts. -/
def addVersion (table : LibraryTable) (name : String) (minor : Nat) (maker : LibraryMaker) :
    LibraryTable :=
  { table with versioned := ((name, minor), maker) :: table.versioned }

def addUnversioned (table : LibraryTable) (name : String) (maker : LibraryMaker) : LibraryTable :=
  { table with unversioned := Entries.set table.unversioned name maker }

def resolve (table : LibraryTable) : Resolver := fun name version =>
  match table.versioned.find? fun entry => entry.1 == (name, version.minor) with
  | some entry => some (entry.2 version)
  | none => (Entries.get? table.unversioned name).map fun maker => maker version

end LibraryTable

/-- Directories of plugins, and the libraries that may be found there. -/
structure PluginTable where
  dirs : List String := []
  makers : List (String × LibraryMaker) := []

namespace PluginTable

def setDirs (table : PluginTable) (dirs : List String) : PluginTable := { table with dirs := dirs }

def add (table : PluginTable) (name : String) (maker : LibraryMaker) : PluginTable :=
  { table with makers := Entries.set table.makers name maker }

/-- The entries of a directory whose names begin with the given name. -/
def matching (files : FileTree) (dir name : String) : List String :=
  match files.list dir with
  | none => []
  | some names => names.filter fun entry => name.toList.isPrefixOf entry.toList

/-- The path of the first matching entry in the order of names. -/
def locateIn (files : FileTree) (dir name : String) : Option String :=
  (Catalog.sortNames (matching files dir name)).head?.map fun entry => Path.join dir entry

/-- The entry that stands for a library at a version, in the first directory with one. -/
def locate (table : PluginTable) (files : FileTree) (name : String) (version : Version) :
    Option String :=
  table.dirs.findSome? fun dir => locateIn files (Path.join dir version.text) name

def resolve (table : PluginTable) (files : FileTree) : Resolver := fun name version =>
  match Entries.get? table.makers name with
  | none => none
  | some maker => (table.locate files name version).map fun _ => maker version

end PluginTable

end TextTemplate
