import TextTemplate.Text.Case
import TextTemplate.Text.Trim
import TextTemplate.Value.Basic

/-!
The steps of a dotted path. A name selects, in this order, an entry of a map, an item of a
list by its position, a property and a method; the first that exists is taken. Texts
answer to methods that inspect or convert them, and maps give out their names, their
values and their entries as pairs.
-/
namespace TextTemplate.Value

/-- A list of a map's entries, each as a list of its name and its value. -/
def pairs (entries : List (String × Value)) : Value :=
  .list (entries.map fun entry => .list [.str entry.1, entry.2])

def mapNames (entries : List (String × Value)) : Value :=
  .list (entries.map fun entry => .str entry.1)

def mapValues (entries : List (String × Value)) : Value := .list (entries.map (·.2))

def ofChars (cs : List Char) : Value := .str (String.ofList cs)

/-- The methods of texts. The tests for letters fail on an empty text; those for digits,
spaces and letters or digits together succeed. -/
def textMethod (cs : List Char) (name : String) : Option Value :=
  match name with
  | "capitalize" => some (ofChars (Text.capitalize cs))
  | "isalnum" => some (.bool (cs.all Text.isAlphanumeric))
  | "isalpha" => some (.bool (!cs.isEmpty && cs.all Text.isAlphabetic))
  | "isdigit" => some (.bool (cs.all Text.isNumeric))
  | "islower" => some (.bool (Text.lower cs == cs))
  | "isupper" => some (.bool (Text.upper cs == cs))
  | "isspace" => some (.bool (cs.all Text.isSpace))
  | "istitle" => some (.bool (Text.isTitled cs))
  | "lower" => some (ofChars (Text.lower cs))
  | "upper" => some (ofChars (Text.upper cs))
  | "strip" => some (ofChars (Text.trim cs))
  | "splitlines" => some (.list ((Text.splitOnChar '\n' cs).map ofChars))
  | "swapcase" => some (ofChars (Text.swapCase cs))
  | "title" => some (ofChars (Text.capitalizeWords cs))
  | _ => none

def property (v : Value) (name : String) : Option Value :=
  match v with
  | .list items => if name = "length" then some (ofCount items.length) else none
  | .object _ _ properties _ _ => Entries.get? properties name
  | _ => none

def method (v : Value) (name : String) : Option Value :=
  match v with
  | .str s => textMethod s.toList name
  | .safe s => textMethod s.toList name
  | .map entries =>
    if name = "keys" then some (mapNames entries)
    else if name = "values" then some (mapValues entries)
    else if name = "items" then some (pairs entries)
    else none
  | .object _ _ _ methods _ => Entries.get? methods name
  | _ => none

/-- The entry of a map or the item of a list that a name selects. -/
def element (v : Value) (name : String) : Option Value :=
  match v with
  | .map entries => Entries.get? entries name
  | .list items => (Decimal.readIndex name.toList).bind fun i => items[i]?
  | _ => none

def lookup (v : Value) (name : String) : Option Value :=
  (v.element name).or ((v.property name).or (v.method name))

/-- Follows the remaining names of a path. -/
def follow (v : Value) : List String → Option Value
  | [] => some v
  | name :: rest => (v.lookup name).bind fun w => w.follow rest

end TextTemplate.Value
