import TextTemplate.Text.Trim

/-!
Path names. A path is a text whose names are divided by slashes. Joining puts a slash
between the two parts unless there is one already, and an absolute second part stands for
itself. The length of a path is limited.
-/
namespace TextTemplate.Path

def isAbsolute (path : String) : Bool := path.toList.head? == some '/'

def endsInSlash (path : String) : Bool := path.toList.getLast? == some '/'

def join (dir path : String) : String :=
  if isAbsolute path then path
  else if dir == "" || endsInSlash dir then dir ++ path
  else dir ++ "/" ++ path

/-- A path of more bytes than this leads nowhere. -/
def maxBytes : Nat := 4095

/-- The names to walk through, in order. A slash at the end asks for a directory, as a walk
to the place itself does. -/
def steps (path : String) : List String :=
  let names := ((Text.splitOnChar '/' path.toList).map String.ofList).filter (· != "")
  if endsInSlash path then names ++ ["."] else names

end TextTemplate.Path
