/-!
What can go wrong. Reading a template meets syntax faults, each with a cause of its own;
the line is added by whoever knows which tag was being read. Resolving an expression may
miss a variable or hand a filter the wrong thing, and writing may find the output full.
Every error has one message.
-/
namespace TextTemplate

/-- Why a text is no variable. -/
inductive VariableFault where
  | empty
  | emptySegment (text : String)
  | badCharacter (c : Char) (text : String)
  | trailing (rest : String)
  | unterminated (text : String)
deriving DecidableEq

namespace VariableFault

def message : VariableFault → String
  | .empty => "empty variable"
  | .emptySegment text => s!"empty segment in variable '{text}'"
  | .badCharacter c text => s!"unexpected character '{c}' in variable '{text}'"
  | .trailing rest => s!"unexpected text after string literal: '{rest}'"
  | .unterminated text => s!"unterminated string literal {text}"

end VariableFault

/-- Why a template cannot be read. -/
inductive SyntaxFault where
  | emptyVariable
  | emptyBlock
  | unknownTag (name : String)
  | unclosed (name : String) (expected : List String)
  | unexpectedEnd (expected : List String)
  | badVariable (fault : VariableFault)
  | filterName (name text : String)
  | unknownFilter (name : String)
  | filterArgument (name : String) (fault : VariableFault)
  | withUsage
  | withWord (word : String)
  | withTarget (name : String)
  | noCondition
  | conditionWord (word : String)
  | conditionOperand (word : String)
  | conditionEnd
  | elseArguments
  | forUsage (args : String)
  | forTargets (args : String)
  | includeUsage
  | endless
  | other (message : String)
deriving DecidableEq

namespace SyntaxFault

def expectedText (expected : List String) : String :=
  "expected one of '" ++ String.intercalate "', '" expected ++ "'"

def message : SyntaxFault → String
  | .emptyVariable => "empty variable tag"
  | .emptyBlock => "empty block tag"
  | .unknownTag name => s!"invalid block tag '{name}'"
  | .unclosed name expected => s!"unclosed tag '{name}'; " ++ expectedText expected
  | .unexpectedEnd expected => "unexpected end of template; " ++ expectedText expected
  | .badVariable fault => fault.message
  | .filterName name text => s!"invalid filter name '{name}' in '{text}'"
  | .unknownFilter name => s!"unknown filter '{name}'"
  | .filterArgument name fault => s!"bad argument to filter '{name}': " ++ fault.message
  | .withUsage => "'with' expects 'value as name' or 'name=value'"
  | .withWord word => s!"'with' expects 'value as name' or 'name=value', got '{word}'"
  | .withTarget name => s!"'with' cannot bind to '{name}'"
  | .noCondition => "'if' requires a condition"
  | .conditionWord word => s!"unexpected '{word}' in condition"
  | .conditionOperand word => s!"expected a value in condition, found '{word}'"
  | .conditionEnd => "condition ends unexpectedly"
  | .elseArguments => "'else' takes no arguments"
  | .forUsage args => s!"'for' statements should use the format 'for x in y': for {args}"
  | .forTargets args => s!"'for' tag received invalid loop variables: {args}"
  | .includeUsage => "'include' takes one argument, the template name"
  | .endless => "tags keep adding tokens without end"
  | .other message => message

end SyntaxFault

/-- Why a filter cannot be applied. -/
inductive FilterFault where
  | takesNone
  | needsArgument
  | noLength (kind : String)
  | separatorKind (kind : String)
  | notList (kind : String)
  | cannotAdd (left right : String)
  | argumentKind
  | other (message : String)
deriving DecidableEq

namespace FilterFault

def message : FilterFault → String
  | .takesNone => "takes no argument"
  | .needsArgument => "requires an argument"
  | .noLength kind => s!"cannot take the length of a {kind}"
  | .separatorKind kind => s!"separator must be a string, got {kind}"
  | .notList kind => s!"expected a list, got {kind}"
  | .cannotAdd left right => s!"cannot add {left} and {right}"
  | .argumentKind => "argument must be a string"
  | .other message => message

end FilterFault

inductive Error where
  | tagSyntax (line : Nat) (fault : SyntaxFault)
  | missingVariable (path : String)
  | filter (name : String) (fault : FilterFault)
  | templateNotFound (name : String)
  | includeDepth (name : String)
  | output
deriving DecidableEq

namespace Error

def message : Error → String
  | .tagSyntax line fault => s!"syntax error on line {line}: " ++ fault.message
  | .missingVariable path => s!"variable '{path}' not found in context"
  | .filter name fault => s!"filter '{name}': " ++ fault.message
  | .templateNotFound name => s!"template '{name}' could not be loaded by any loader"
  | .includeDepth name => s!"template '{name}' is included too deeply"
  | .output => "failed to write template output"

/-- The error lies in a template's text, or no template could be found at all. -/
def isSyntax : Error → Bool
  | .tagSyntax _ _ => true
  | .templateNotFound _ => true
  | _ => false

/-- The line on which the faulty tag starts, if the error knows it. -/
def line? : Error → Option Nat
  | .tagSyntax line _ => some line
  | _ => none

end Error

end TextTemplate
