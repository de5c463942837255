import TextTemplate.Json.Basic
import TextTemplate.Value.OfJson
import TextTemplate.Value.Text

/-!
The names that a template sees. A scope is a stack of frames over a root frame that is
never removed; a name means its entry in the innermost frame that has one. The two flags
say whether output is escaped and whether a name without a meaning is an error.
-/
namespace TextTemplate

abbrev Frame := List (String × Value)

/-- The pushed frames, innermost first, and the root frame. A scope knows the number of its
pushed frames, so that going back to an earlier height does not take longer in a deep scope. -/
structure Scope where
  pushed : List Frame := []
  height : Nat := pushed.length
  height_eq : height = pushed.length := by rfl
  root : Frame := []
  autoescape : Bool := true
  strict : Bool := false

namespace Scope

/-- No names, with output escaped and missing names left empty. -/
def empty : Scope := {}

/-- All frames, innermost first. -/
def frames (scope : Scope) : List Frame := scope.pushed ++ [scope.root]

/-- The number of frames, the root included. -/
def depth (scope : Scope) : Nat := scope.height + 1

def lookup (scope : Scope) (name : String) : Option Value :=
  match scope.pushed.findSome? fun frame => Entries.get? frame name with
  | some v => some v
  | none => Entries.get? scope.root name

/-- Gives a name a meaning in the innermost frame. -/
def insert (scope : Scope) (name : String) (value : Value) : Scope :=
  match h : scope.pushed with
  | [] => { scope with root := Entries.set scope.root name value }
  | frame :: rest =>
    { scope with
      pushed := Entries.set frame name value :: rest
      height_eq := by rw [scope.height_eq, h, List.length_cons, List.length_cons] }

def push (scope : Scope) (frame : Frame) : Scope :=
  { scope with
    pushed := frame :: scope.pushed
    height := scope.height + 1
    height_eq := by rw [scope.height_eq, List.length_cons] }

/-- Removes the innermost frame, unless it is the root. -/
def pop (scope : Scope) : Option Frame × Scope :=
  match h : scope.pushed with
  | [] => (none, scope)
  | frame :: rest =>
    (some frame,
      { scope with
        pushed := rest
        height := scope.height - 1
        height_eq := by rw [scope.height_eq, h, List.length_cons, Nat.add_sub_cancel] })

/-- Removes the innermost frames until at most `depth` are left; the root stays. -/
def truncate (scope : Scope) (depth : Nat) : Scope :=
  { scope with
    pushed := scope.pushed.drop (scope.depth - depth)
    height := scope.height - (scope.depth - depth)
    height_eq := by rw [List.length_drop, scope.height_eq] }

/-- Runs a computation with a frame pushed, and then removes that frame and all that the
computation has left above it. -/
def within {α : Type} (scope : Scope) (frame : Frame) (run : Scope → α × Scope) : α × Scope :=
  let (result, after) := run (scope.push frame)
  (result, after.truncate scope.depth)

/-- The scope of a document: the members of an object become the root frame, and any other
document leaves it empty. -/
def ofJson (json : Json) : Scope :=
  match Value.ofJson json with
  | .map entries => { empty with root := entries }
  | _ => empty

def frameOutline (frame : Frame) : String := Outline.table (Value.entryOutlines frame)

def framesOutline (scope : Scope) : String :=
  Outline.list (scope.frames.reverse.map frameOutline)

/-- A scope is given by its frames and its flags. -/
theorem eq_of_pushed {a b : Scope} (hpushed : a.pushed = b.pushed) (hroot : a.root = b.root)
    (hautoescape : a.autoescape = b.autoescape) (hstrict : a.strict = b.strict) : a = b := by
  have hheight : a.height = b.height := by rw [a.height_eq, b.height_eq, hpushed]
  cases a
  cases b
  simp_all

theorem frames_push (scope : Scope) (frame : Frame) :
    (scope.push frame).frames = frame :: scope.frames :=
  rfl

theorem lookup_eq_findSome? (scope : Scope) (name : String) :
    scope.lookup name = scope.frames.findSome? fun frame => Entries.get? frame name := by
  simp only [lookup, frames, List.findSome?_append, List.findSome?_singleton]
  split
  · rename_i v h
    rw [h, Option.some_or]
  · rename_i h
    rw [h, Option.none_or]

theorem lookup_push (scope : Scope) (frame : Frame) (name : String) :
    (scope.push frame).lookup name = (Entries.get? frame name).or (scope.lookup name) := by
  simp only [lookup_eq_findSome?, frames_push, List.findSome?_cons]
  cases Entries.get? frame name <;> rfl

/-- Frames left above a scope are removed by going back to its depth. -/
theorem truncate_depth {scope after : Scope} {left : List Frame}
    (hpushed : after.pushed = left ++ scope.pushed) (hroot : after.root = scope.root)
    (hautoescape : after.autoescape = scope.autoescape) (hstrict : after.strict = scope.strict) :
    after.truncate scope.depth = scope := by
  have hdrop : after.depth - scope.depth = left.length := by
    rw [depth, depth, after.height_eq, scope.height_eq, hpushed, List.length_append]
    omega
  refine eq_of_pushed ?_ hroot hautoescape hstrict
  change after.pushed.drop (after.depth - scope.depth) = scope.pushed
  rw [hdrop, hpushed, List.drop_left]

end Scope

end TextTemplate
