import SchemaDrift.Table.Basic

namespace SchemaDrift

/-- One clause of a statement that alters a table. -/
inductive Clause where
  | addColumn (c : Column)
  | dropColumn (name : Text)
  | modifyColumn (c : Column)
  | addKey (kind : KeyKind) (k : Key)
  | dropKey (name : Text)
  deriving DecidableEq, Repr

/-- What has to happen to one table. -/
inductive Change where
  /-- The table is new and comes into being as its dump declares it. -/
  | create (t : Table)
  | alter (table : Text) (clauses : List Clause)
  deriving DecidableEq, Repr

/-- The changes that turn one schema into another, in ascending order of the table names. -/
abbrev Migration := List Change

/-- The table a change is about. -/
def Change.table : Change → Text
  | .create t => t.name
  | .alter name _ => name

end SchemaDrift
