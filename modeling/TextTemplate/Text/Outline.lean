/-!
Outlines. An outline is one line that spells out a thing with all its parts, for a reader
of the program and not of the template: lists in brackets, tables in braces, records with
their name and the names of their fields.
-/
namespace TextTemplate.Outline

def bool (b : Bool) : String := if b then "true" else "false"

def list (parts : List String) : String := "[" ++ String.intercalate ", " parts ++ "]"

def table (parts : List String) : String := "\x7b" ++ String.intercalate ", " parts ++ "\x7d"

def application (name : String) (parts : List String) : String :=
  name ++ "(" ++ String.intercalate ", " parts ++ ")"

def fieldTexts (fields : List (String × String)) : String :=
  String.intercalate ", " (fields.map fun field => field.1 ++ ": " ++ field.2)

def record (name : String) (fields : List (String × String)) : String :=
  name ++ " \x7b " ++ fieldTexts fields ++ " \x7d"

/-- A record of which only some fields are shown. -/
def openRecord (name : String) (fields : List (String × String)) : String :=
  name ++ " \x7b " ++ fieldTexts fields ++ ", .. \x7d"

def optional : Option String → String
  | none => "None"
  | some part => application "Some" [part]

end TextTemplate.Outline
