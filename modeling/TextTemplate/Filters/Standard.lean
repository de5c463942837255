import TextTemplate.Catalog.Basic
import TextTemplate.Text.Escape
import TextTemplate.Value.Lookup
import TextTemplate.Value.Text

/-!
The standard library of filters. Filters that change a text keep it safe if it was; joining
under escaping escapes the items and gives a safe text. Sums of integers stop at the ends
of the range.
-/
namespace TextTemplate.Filters

/-- A filter without argument that never fails. -/
def plain (f : Value → Value) : Filter where
  arity := .none
  apply input _ _ := .ok (f input)

/-- A filter without argument that changes the text of its input. -/
def ofText (f : List Char → List Char) : Filter := plain (Value.mapText f)

/-- A filter that must have an argument. An absent one counts as null. -/
def withArgument (f : Value → Value → Except Error Value) : Filter where
  arity := .required
  apply input argument _ := f input (Value.ofOption argument)

def default (input argument : Value) : Except Error Value :=
  .ok (if input.isTruthy then input else argument)

def length (input : Value) : Except Error Value :=
  match input with
  | .str s => .ok (.ofCount s.toList.length)
  | .safe s => .ok (.ofCount s.toList.length)
  | .list items => .ok (.ofCount items.length)
  | .map entries => .ok (.ofCount entries.length)
  | .null => .ok (.ofCount 0)
  | v => .error (.filter "length" (.noLength v.kind))

/-- The text that an item adds to a joined text. -/
def joinPart (autoescape : Bool) (item : Value) : String :=
  if autoescape && !item.isSafe then Text.escapeHtml item.text else item.text

def joined (autoescape : Bool) (separator : String) (items : List Value) : Value :=
  let s := String.intercalate separator (items.map (joinPart autoescape))
  if autoescape then .safe s else .str s

/-- The text between joined items; without an argument there is none. -/
def separator : Option Value → Except Error String
  | none => .ok ""
  | some (.str s) => .ok s
  | some (.safe s) => .ok s
  | some v => .error (.filter "join" (.separatorKind v.kind))

def join (input : Value) (argument : Option Value) (autoescape : Bool) : Except Error Value :=
  match separator argument with
  | .error e => .error e
  | .ok s =>
    match input with
    | .list items => .ok (joined autoescape s items)
    | v => .error (.filter "join" (.notList v.kind))

def ofChar : Option Char → Value
  | some c => .str (String.singleton c)
  | none => .null

def first : Value → Value
  | .list items => Value.ofOption items.head?
  | .str s => ofChar s.toList.head?
  | .safe s => ofChar s.toList.head?
  | _ => .null

def last : Value → Value
  | .list items => Value.ofOption items.getLast?
  | .str s => ofChar s.toList.getLast?
  | .safe s => ofChar s.toList.getLast?
  | _ => .null

def add (input argument : Value) : Except Error Value :=
  match input, argument with
  | .int a, .int b => .ok (.int (Decimal.clamp (a + b)))
  | .int a, .float b => .ok (.float (Float.ofInt a + b))
  | .float a, .int b => .ok (.float (a + Float.ofInt b))
  | .float a, .float b => .ok (.float (a + b))
  | .list a, .list b => .ok (.list (a ++ b))
  | a, b =>
    match a.text?, b.text? with
    | some s, some t => .ok (.str (s ++ t))
    | _, _ => .error (.filter "add" (.cannotAdd a.kind b.kind))

def cut (input argument : Value) : Except Error Value :=
  match argument.text? with
  | some needle => .ok (input.mapText (Text.remove needle.toList))
  | none => .error (.filter "cut" .argumentKind)

/-- Escapes a value unless it is safe already, and marks the result as safe. -/
def escape : Value → Value
  | .safe s => .safe s
  | v => .safe (Text.escapeHtml v.text)

def safe (v : Value) : Value := .safe v.text

def standard : Library where
  filters :=
    [("upper", ofText Text.upper),
      ("lower", ofText Text.lower),
      ("capfirst", ofText Text.capitalize),
      ("title", ofText Text.titleCase),
      ("default", withArgument default),
      ("length", { arity := .none, apply := fun input _ _ => length input }),
      ("join", { arity := .required, apply := join }),
      ("first", plain first),
      ("last", plain last),
      ("add", withArgument add),
      ("cut", withArgument cut),
      ("escape", plain escape),
      ("safe", plain safe)]

end TextTemplate.Filters
