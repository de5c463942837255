import TextTemplate.Json.Basic
import TextTemplate.Value.Basic

/-!
Values of JSON documents. An integer that the range of values cannot hold becomes the
nearest floating-point number; all else has an exact counterpart.
-/
namespace TextTemplate.Value

def ofNumber : Json.Number → Value
  | .int n => if Decimal.inRange n then .int n else .float (Float.ofInt n)
  | .float x => .float x

mutual

def ofJson : Json → Value
  | .null => .null
  | .bool b => .bool b
  | .number n => ofNumber n
  | .text s => .str s
  | .list items => .list (ofJsonItems items)
  | .object members => .map (ofJsonMembers members)

def ofJsonItems : List Json → List Value
  | [] => []
  | item :: rest => ofJson item :: ofJsonItems rest

def ofJsonMembers : List (String × Json) → List (String × Value)
  | [] => []
  | (name, item) :: rest => (name, ofJson item) :: ofJsonMembers rest

end

end TextTemplate.Value
