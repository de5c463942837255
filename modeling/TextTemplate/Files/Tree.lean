import TextTemplate.Entries
import TextTemplate.Files.Path

/-!
A tree of files. Files hold bytes, directories hold named entries. Walking along a path
needs a directory at every step, also for the steps that stay in place or go up, so that
nothing lies below a file and no step leads back from a place that does not exist. A file
that is there may still refuse to be read, which a disk keeps track of.
-/
namespace TextTemplate

inductive FileTree where
  | file (bytes : ByteArray)
  | directory (entries : List (String × FileTree))

namespace FileTree

def empty : FileTree := .directory []

/-- Walks on from a place whose enclosing directories are given, innermost first. -/
def walk (here : FileTree) (above : List FileTree) : List String → Option FileTree
  | [] => some here
  | name :: rest =>
    match here with
    | .file _ => none
    | .directory entries =>
      if name = "." then here.walk above rest
      else if name = ".." then
        match above with
        | [] => here.walk [] rest
        | parent :: further => parent.walk further rest
      else
        match Entries.get? entries name with
        | none => none
        | some child => child.walk (here :: above) rest

/-- What a path leads to. A path that is empty or too long leads nowhere, and one that is not
absolute starts at the top as well. -/
def find? (tree : FileTree) (path : String) : Option FileTree :=
  if path = "" ∨ Path.maxBytes < path.utf8ByteSize then none else tree.walk [] (Path.steps path)

def isFile (tree : FileTree) (path : String) : Bool :=
  match tree.find? path with
  | some (.file _) => true
  | _ => false

/-- The text of a file, if there is one and its bytes are the encoding of a text. -/
def readText (tree : FileTree) (path : String) : Option String :=
  match tree.find? path with
  | some (.file bytes) => String.fromUTF8? bytes
  | _ => none

/-- The names of the entries of a directory. -/
def list (tree : FileTree) (path : String) : Option (List String) :=
  match tree.find? path with
  | some (.directory entries) => some (Entries.names entries)
  | _ => none

/-- Puts something at the end of a walk; missing directories on the way are made. -/
def put (item : FileTree) : List String → FileTree → FileTree
  | [], _ => item
  | name :: rest, .directory entries =>
    .directory
      (Entries.set entries name (put item rest ((Entries.get? entries name).getD empty)))
  | name :: rest, .file _ => .directory [(name, put item rest empty)]

def addFile (tree : FileTree) (path : String) (bytes : ByteArray) : FileTree :=
  put (.file bytes) (Path.steps path) tree

/-- Makes a directory, unless it is there already. -/
def addDirectory (tree : FileTree) (path : String) : FileTree :=
  match tree.find? path with
  | some (.directory _) => tree
  | _ => put empty (Path.steps path) tree

end FileTree

/-- A tree of files as a reader finds it. Reading a file may fail for reasons of its own; when it
does not, it gives the text that the bytes of the file encode. -/
structure Disk where
  files : FileTree
  readText : String → Option String
  readText_eq : ∀ path text, readText path = some text → files.readText path = some text

/-- The disk of a tree in which reading fails only for bytes that are no text. -/
def FileTree.disk (files : FileTree) : Disk := ⟨files, files.readText, fun _ _ h => h⟩

end TextTemplate
