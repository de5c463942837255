import TextTemplate.Attempt
import TextTemplate.Expression.Condition
import TextTemplate.Text.Escape

/-!
Rendering as a computation. Its state is the scope and the output. The output is kept in
pieces that remember whether the template or a value contributed them. It may have room for
a limited number of bytes only, and it may refuse pieces for reasons of its own; a piece
that does not fit is refused as a whole.
-/
namespace TextTemplate

inductive Origin where
  | template
  | value
deriving DecidableEq

structure Piece where
  origin : Origin
  text : String
deriving DecidableEq

/-- The pieces written so far, last first, the number of bytes that still fit, and whether a
piece is refused after the pieces before it. -/
structure Output where
  pieces : List Piece := []
  room : Option Nat := none
  refuses : List Piece → Piece → Bool := fun _ _ => false

namespace Output

def text (out : Output) : String := String.join (out.pieces.reverse.map (·.text))

/-- Adds a piece if there is room for it and it is not refused. -/
def add (out : Output) (piece : Piece) : Option Output :=
  if out.refuses out.pieces piece then none
  else
    match out.room with
    | none => some { out with pieces := piece :: out.pieces }
    | some n =>
      if piece.text.utf8ByteSize ≤ n then
        some { out with
          pieces := piece :: out.pieces
          room := some (n - piece.text.utf8ByteSize) }
      else none

end Output

structure RenderState where
  scope : Scope
  output : Output

abbrev Render (α : Type) : Type := Attempt RenderState α

namespace Render

def write (origin : Origin) (text : String) : Render Unit := fun s =>
  match s.output.add ⟨origin, text⟩ with
  | some out => (.ok (), { s with output := out })
  | none => (.error .output, s)

/-- A computation that only reads the scope. -/
def ofScope {α : Type} (f : Scope → Except Error α) : Render α := fun s => (f s.scope, s)

def evaluate (e : Expression) : Render Value := ofScope fun scope => e.resolve scope

def decide (c : Condition) : Render Bool := ofScope fun scope => c.holds scope

/-- The value that a name has, or null. -/
def valueOf (name : String) : Render Value :=
  ofScope fun scope => .ok (Value.ofOption (scope.lookup name))

/-- Runs a computation with a frame pushed, which is removed whatever the outcome. -/
def within {α : Type} (frame : Frame) (m : Render α) : Render α := fun s =>
  let (outcome, after) := m { s with scope := s.scope.push frame }
  (outcome, { after with scope := after.scope.truncate s.scope.depth })

/-- The text of a value as a template shows it. -/
def shown (autoescape : Bool) (v : Value) : String :=
  if autoescape && !v.isSafe then Text.escapeHtml v.text else v.text

def writeValue (v : Value) : Render Unit := fun s =>
  write .value (shown s.scope.autoescape v) s

end Render

end TextTemplate
