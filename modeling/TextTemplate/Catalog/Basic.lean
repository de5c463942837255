import TextTemplate.Tree.Reader

/-!
Tags, libraries and catalogs. A tag turns the text after its name into a node and may read
its bodies from the tokens that follow. A library is a table of tags and a table of
filters; a catalog merges libraries, and of two definitions of a name the later one holds.
-/
namespace TextTemplate

/-- What a tag can ask for while it is being read: the filters it may use, and the items up
to a block with one of the given names, together with that block. The budget bounds the
number of bodies that a tag may ask for. -/
structure TagReader where
  filters : Expression.FilterTable
  items : List String → Reading (List Node × Option Token)
  budget : Nat

namespace TagReader

/-- Reads a body, which must be ended by one of the given blocks. -/
def body (reader : TagReader) (stops : List String) : Reading (List Node × Token) := do
  match ← reader.items stops with
  | (nodes, some stop) => pure (nodes, stop)
  | (_, none) => Reading.failUnclosed stops

/-- Reads an expression among the arguments of the tag. -/
def expression (reader : TagReader) (text : String) : Reading Expression :=
  Reading.atTag (Expression.read reader.filters text)

end TagReader

structure Tag where
  read : TagReader → String → Reading Node

structure Library where
  tags : List (String × Tag) := []
  filters : List (String × Filter) := []

namespace Library

def tagNames (library : Library) : List String := Entries.names library.tags

def filterNames (library : Library) : List String := Entries.names library.filters

def isEmpty (library : Library) : Bool := library.tags.isEmpty && library.filters.isEmpty

def addTag (library : Library) (name : String) (tag : Tag) : Library :=
  { library with tags := Entries.set library.tags name tag }

def addFilter (library : Library) (name : String) (filter : Filter) : Library :=
  { library with filters := Entries.set library.filters name filter }

def namesOutline (name : String) (tags filters : List String) : String :=
  Outline.record name
    [("tags", Outline.list (tags.map Text.quote)),
      ("filters", Outline.list (filters.map Text.quote))]

def outline (library : Library) : String :=
  namesOutline "TagLibrary" library.tagNames library.filterNames

end Library

/-- The tags and filters that templates are read with. -/
structure Catalog where
  tags : List (String × Tag) := []
  filters : List (String × Filter) := []

namespace Catalog

def tag? (catalog : Catalog) (name : String) : Option Tag := Entries.get? catalog.tags name

def filter? (catalog : Catalog) (name : String) : Option Filter :=
  Entries.get? catalog.filters name

/-- Adds the definitions of a library, which replace earlier ones of the same name. -/
def register (catalog : Catalog) (library : Library) : Catalog :=
  { tags := Entries.setAll catalog.tags library.tags
    filters := Entries.setAll catalog.filters library.filters }

def sortNames (names : List String) : List String :=
  names.mergeSort fun a b => decide (a ≤ b)

/-- The names are listed in the order of their characters. -/
def outline (catalog : Catalog) : String :=
  Library.namesOutline "Registry" (sortNames (Entries.names catalog.tags))
    (sortNames (Entries.names catalog.filters))

end Catalog

end TextTemplate
