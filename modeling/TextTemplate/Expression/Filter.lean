import TextTemplate.Error
import TextTemplate.Value.Basic

/-!
Filters. A filter turns a value into another one, with an argument if its arity allows
one, and may look at whether the output will be escaped.
-/
namespace TextTemplate

/-- Whether a filter takes an argument. -/
inductive Arity where
  | none
  | optional
  | required
deriving DecidableEq

structure Filter where
  arity : Arity
  apply : Value → Option Value → Bool → Except Error Value

namespace Filter

/-- The fault in giving or withholding an argument. -/
def arityFault (arity : Arity) (argument : Option Value) : Option FilterFault :=
  match arity, argument with
  | .none, some _ => some .takesNone
  | .required, none => some .needsArgument
  | _, _ => none

/-- Applies a filter after checking that it may have the argument. -/
def run (filter : Filter) (name : String) (input : Value) (argument : Option Value)
    (autoescape : Bool) : Except Error Value :=
  match arityFault filter.arity argument with
  | some fault => .error (.filter name fault)
  | none => filter.apply input argument autoescape

end Filter

end TextTemplate
