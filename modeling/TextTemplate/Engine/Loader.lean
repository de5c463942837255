import TextTemplate.Files.Tree

/-!
Loaders, the places where templates are looked up by name. A loader may claim a name and
still give no text for it, because its file is no text or cannot be read. A loader of
directories offers the file in its first directory that has one, and no other.
-/
namespace TextTemplate

structure Loader where
  canLoad : String → Bool
  content : String → Option String
  mediaUri : String → Option String

namespace Loader

/-- Texts that are held in memory. -/
def memory (sources : List (String × String)) : Loader where
  canLoad name := Entries.contains sources name
  content name := Entries.get? sources name
  mediaUri _ := none

/-- The path of the file in the first directory that has one. -/
def findFile (files : FileTree) (dirs : List String) (name : String) : Option String :=
  (dirs.map fun dir => Path.join dir name).find? fun path => files.isFile path

/-- Files below the given directories of a disk. -/
def onDisk (disk : Disk) (dirs : List String) : Loader where
  canLoad name := (findFile disk.files dirs name).isSome
  content name := (findFile disk.files dirs name).bind disk.readText
  mediaUri name := findFile disk.files dirs name

/-- Files below the given directories, none of which refuses to be read. -/
def directories (files : FileTree) (dirs : List String) : Loader := onDisk files.disk dirs

end Loader

end TextTemplate
