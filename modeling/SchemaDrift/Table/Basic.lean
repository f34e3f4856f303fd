import SchemaDrift.Table.IndexName

namespace SchemaDrift

/-- A column: its name without quotes and its type and qualifiers as the dump writes them. -/
structure Column where
  name : Text
  definition : Text
  deriving DecidableEq, Repr

inductive KeyKind where
  | ordinary
  | unique
  deriving DecidableEq, Repr

/-- A secondary index: its declared name and its column spec as the dump writes it. -/
structure Key where
  name : Text
  spec : Text
  deriving DecidableEq, Repr

/-- The name this index takes when it has to be added. -/
def Key.synthesizedName (k : Key) : Text := indexName k.spec

/-- A table as one block of a dump declares it; `content` is that block. -/
structure Table where
  name : Text
  columns : List Column := []
  primary : List Text := []
  keys : List Key := []
  uniqueKeys : List Key := []
  content : Text := []
  deriving DecidableEq, Repr

namespace Table

def keysOf (t : Table) : KeyKind → List Key
  | .ordinary => t.keys
  | .unique => t.uniqueKeys

/-- The first column of that name. -/
def column? (t : Table) (name : Text) : Option Column := t.columns.find? (·.name = name)

end Table
end SchemaDrift
