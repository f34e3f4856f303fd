import SchemaDrift.Migration.Compare

namespace SchemaDrift

/-- The wording of a clause. -/
def Clause.sql : Clause → Text
  | .addColumn c => "ADD " ++ quoteIdentifier c.name ++ " " ++ c.definition
  | .dropColumn name => "DROP " ++ quoteIdentifier name
  | .modifyColumn c => "MODIFY " ++ quoteIdentifier c.name ++ " " ++ c.definition
  | .addKey .ordinary k => "ADD INDEX " ++ quoteIdentifier k.name ++ " (" ++ k.spec ++ ")"
  | .addKey .unique k => "ADD UNIQUE INDEX " ++ quoteIdentifier k.name ++ " (" ++ k.spec ++ ")"
  | .dropKey name => "DROP INDEX " ++ quoteIdentifier name

/-- The statement that carries a change out, with the blank line behind it. -/
def Change.sql : Change → Text
  | .create t => t.content ++ ";\n\n"
  | .alter name clauses =>
    "ALTER TABLE " ++ quoteIdentifier name ++ " " ++ List.intercalate ", " (clauses.map Clause.sql) ++
      ";\n\n"

/-- The statements of a migration, one behind the other. -/
def Migration.script (m : Migration) : Text := m.flatMap Change.sql

/-- The script that turns the old tables into the new ones. -/
def migrationScript (old new : List Table) : Text := (Migration.between old new).script

end SchemaDrift
