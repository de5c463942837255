import TextTemplate.Entries
import TextTemplate.Json.Number

/-!
JSON documents. The members of an object keep their order, and a repeated name keeps its
first place and takes its last value. A text is a document when its form has a meaning in
every part and nests lists and objects less than 128 deep.
-/
namespace TextTemplate

inductive Json where
  | null
  | bool (b : Bool)
  | number (n : Json.Number)
  | text (s : String)
  | list (items : List Json)
  | object (members : List (String × Json))

namespace Json

/-- The greatest depth to which lists and objects may be nested. -/
def maxDepth : Nat := 127

mutual

/-- The document of a form that may nest `depth` further levels. -/
def ofForm (depth : Nat) : Form → Option Json
  | .null => some .null
  | .bool b => some (.bool b)
  | .number n => (number? n).map .number
  | .text parts => (decodeText parts).map .text
  | .list items =>
    match depth with
    | 0 => none
    | depth + 1 => (ofItems depth items).map .list
  | .object members =>
    match depth with
    | 0 => none
    | depth + 1 => (ofMembers depth members).map fun pairs => .object (Entries.ofList pairs)

def ofItems (depth : Nat) : List Form → Option (List Json)
  | [] => some []
  | item :: rest =>
    match ofForm depth item, ofItems depth rest with
    | some v, some vs => some (v :: vs)
    | _, _ => none

def ofMembers (depth : Nat) : List (List Part × Form) → Option (List (String × Json))
  | [] => some []
  | (name, form) :: rest =>
    match decodeText name, ofForm depth form, ofMembers depth rest with
    | some s, some v, some vs => some ((s, v) :: vs)
    | _, _, _ => none

end

/-- Reads a document. -/
def read (s : String) : Option Json := (Form.read s.toList).bind (ofForm maxDepth)

end Json

end TextTemplate
