import TextTemplate.Decimal.Digits
import TextTemplate.Entries

/-!
The values that templates work on. Texts come in two kinds: a safe text has been escaped
already, or was written by the template's author, and is output as it is. An object
belongs to the host program: it has an identity, a type name, and named properties and
methods, whose results are fixed when the object is made.
-/
namespace TextTemplate

inductive Value where
  | null
  | bool (b : Bool)
  | int (n : Int)
  | float (x : Float)
  | str (s : String)
  | safe (s : String)
  | list (items : List Value)
  | map (entries : List (String × Value))
  | object (id : Nat) (typeName : String) (properties methods : List (String × Value))
      (display : Option Value)

namespace Value

instance : Inhabited Value := ⟨.null⟩

def isNull : Value → Bool
  | .null => true
  | _ => false

def isSafe : Value → Bool
  | .safe _ => true
  | _ => false

/-- Nothing, false, zero and everything empty count as false, all else as true. -/
def isTruthy : Value → Bool
  | .null => false
  | .bool b => b
  | .int n => n != 0
  | .float x => x != 0
  | .str s => s != ""
  | .safe s => s != ""
  | .list items => !items.isEmpty
  | .map entries => !entries.isEmpty
  | .object .. => true

/-- The characters of a text of either kind. -/
def text? : Value → Option String
  | .str s => some s
  | .safe s => some s
  | _ => none

/-- The name of the kind of a value, as it appears in messages. -/
def kind : Value → String
  | .null => "null"
  | .bool _ => "bool"
  | .int _ => "int"
  | .float _ => "float"
  | .str _ => "string"
  | .safe _ => "string"
  | .list _ => "list"
  | .map _ => "map"
  | .object .. => "object"

/-- The integer that shares its low 64 bits with a number. -/
def ofWord (n : Nat) : Value := .int (Decimal.wrap n)

/-- The value of a count, such as the length of a list. -/
def ofCount (n : Nat) : Value := .int n

/-- An absent value is null. -/
def ofOption : Option Value → Value
  | some v => v
  | none => .null

end Value

end TextTemplate
