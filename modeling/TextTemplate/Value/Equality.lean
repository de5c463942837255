import TextTemplate.Text.Trim
import TextTemplate.Value.Text

/-!
Equality and membership. Texts are equal whatever their kind, an integer equals the
floating-point number it converts to, maps are equal when they have the same entries in
any order, and an object equals only itself.
-/
namespace TextTemplate.Value

mutual

def equal : Value → Value → Bool
  | .null, .null => true
  | .bool a, .bool b => a == b
  | .int a, .int b => a == b
  | .float a, .float b => a == b
  | .int a, .float b => Float.ofInt a == b
  | .float a, .int b => Float.ofInt b == a
  | .str a, .str b => a == b
  | .str a, .safe b => a == b
  | .safe a, .str b => a == b
  | .safe a, .safe b => a == b
  | .list a, .list b => equalItems a b
  | .map a, .map b => a.length == b.length && equalEntries a b
  | .object a _ _ _ _, .object b _ _ _ _ => a == b
  | _, _ => false

def equalItems : List Value → List Value → Bool
  | [], [] => true
  | a :: as, b :: bs => equal a b && equalItems as bs
  | _, _ => false

/-- Every entry of the first table has an equal one of its name in the second. -/
def equalEntries : List (String × Value) → List (String × Value) → Bool
  | [], _ => true
  | (name, v) :: rest, entries =>
    (match Entries.get? entries name with
      | some w => equal v w
      | none => false) && equalEntries rest entries

end

instance : BEq Value := ⟨equal⟩

/-- A list contains the values equal to an item, a map its names, and a text the texts that
occur in it. -/
def contains (container needle : Value) : Bool :=
  match container with
  | .list items => items.any fun item => equal item needle
  | .map entries =>
    match needle.text? with
    | some name => Entries.contains entries name
    | none => false
  | .str s => Text.occursIn needle.text.toList s.toList
  | .safe s => Text.occursIn needle.text.toList s.toList
  | _ => false

end TextTemplate.Value
