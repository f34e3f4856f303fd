import SchemaDrift.Migration.Basic
import SchemaDrift.Migration.Names

namespace SchemaDrift

/-- The last table of that name: of tables with one name only the last one counts. -/
def lastTable? (tables : List Table) (name : Text) : Option Table :=
  tables.reverse.find? (·.name = name)

/-- The last column of that name. -/
def lastColumn? (columns : List Column) (name : Text) : Option Column :=
  columns.reverse.find? (·.name = name)

/-- The clause that turns one side's column of a name into the other side's. -/
def columnClause? : Option Column → Option Column → Option Clause
  | none, some c => some (.addColumn c)
  | some c, none => some (.dropColumn c.name)
  | some c, some d => if c.definition = d.definition then none else some (.modifyColumn d)
  | none, none => none

/-- The clauses for the columns, in ascending order of their names. -/
def columnClauses (old new : List Column) : List Clause :=
  (sortedNames (old.map Column.name ++ new.map Column.name)).filterMap fun name =>
    columnClause? (lastColumn? old name) (lastColumn? new name)

/-- The clauses for the keys of one kind. Keys are compared by their specs alone: a spec that only
the new side has is added once under a synthesized name, and every old key whose spec the new side
lacks is dropped under its declared name. -/
def keyClauses (kind : KeyKind) (old new : List Key) : List Clause :=
  let oldSpecs := old.map Key.spec
  let newSpecs := new.map Key.spec
  (newSpecs.filter (· ∉ oldSpecs)).eraseDups.map (fun spec => .addKey kind ⟨indexName spec, spec⟩) ++
    (old.filter (·.spec ∉ newSpecs)).map (fun k => .dropKey k.name)

/-- The clauses that turn the old table into the new one. -/
def tableClauses (old new : Table) : List Clause :=
  columnClauses old.columns new.columns ++
    keyClauses .ordinary old.keys new.keys ++ keyClauses .unique old.uniqueKeys new.uniqueKeys

/-- The change for a name, given the tables that bear it; a table of the old side alone stays. -/
def change? : Option Table → Option Table → Option Change
  | _, none => none
  | none, some new => some (.create new)
  | some old, some new =>
    match tableClauses old new with
    | [] => none
    | clauses => some (.alter new.name clauses)

/-- The migration from the old tables to the new ones. -/
def Migration.between (old new : List Table) : Migration :=
  (sortedNames (new.map Table.name)).filterMap fun name =>
    change? (lastTable? old name) (lastTable? new name)

/-- The names that only the old side bears, in ascending order. -/
def untouchedNames (old new : List Table) : List Text :=
  (sortedNames (old.map Table.name)).filter (· ∉ new.map Table.name)

end SchemaDrift
