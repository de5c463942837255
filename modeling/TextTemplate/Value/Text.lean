import TextTemplate.Decimal.FloatText
import TextTemplate.Text.Outline
import TextTemplate.Text.Quoted
import TextTemplate.Value.Basic

/-!
The two texts of a value. `text` is what a template writes before escaping: null writes
nothing, lists and maps are written in brackets, and an object writes its display value or
its type name. `outline` describes the value for a reader of the program, with the kind of
every part spelled out.
-/
namespace TextTemplate.Value

open Decimal

mutual

def text : Value → String
  | .null => ""
  | .bool b => Outline.bool b
  | .int n => String.ofList (intText n)
  | .float x => floatText x
  | .str s => s
  | .safe s => s
  | .list items => Outline.list (texts items)
  | .map entries => Outline.table (entryTexts entries)
  | .object _ typeName _ _ display => displayText typeName display

def texts : List Value → List String
  | [] => []
  | v :: rest => text v :: texts rest

def entryTexts : List (String × Value) → List String
  | [] => []
  | (name, v) :: rest => (name ++ ": " ++ text v) :: entryTexts rest

def displayText (typeName : String) : Option Value → String
  | some shown => text shown
  | none => "<" ++ typeName ++ ">"

end

mutual

def outline : Value → String
  | .null => "Null"
  | .bool b => Outline.application "Bool" [Outline.bool b]
  | .int n => Outline.application "Int" [String.ofList (intText n)]
  | .float x => Outline.application "Float" [floatText x]
  | .str s => Outline.application "String" [Text.quote s]
  | .safe s => Outline.application "Safe" [Text.quote s]
  | .list items => Outline.list (outlines items)
  | .map entries => Outline.table (entryOutlines entries)
  | .object _ typeName _ _ _ => Outline.application "Object" [typeName]

def outlines : List Value → List String
  | [] => []
  | v :: rest => outline v :: outlines rest

def entryOutlines : List (String × Value) → List String
  | [] => []
  | (name, v) :: rest => (Text.quote name ++ ": " ++ outline v) :: entryOutlines rest

end

/-- Changes the text of a value; only a text that was safe stays safe. -/
def mapText (f : List Char → List Char) : Value → Value
  | .safe s => .safe (String.ofList (f s.toList))
  | v => .str (String.ofList (f v.text.toList))

end TextTemplate.Value
