import SchemaDrift.Config.Basic
import SchemaDrift.Dump.Events
import SchemaDrift.Migration.Events
import SchemaDrift.Migration.Script
import SchemaDrift.Source.Fetch

namespace SchemaDrift

/-- What the log says when a notice is passed on: a lost table weighs more than a lost line, since
dumps routinely hold lines that no table needs. -/
def Dump.Notice.report (argument : Text) (n : Dump.Notice) : Event :=
  ⟨if n.dropsTable then .warn else .debug, "mysql_diff", n.message, [("source", .text argument)]⟩

namespace Config

/-- What dumps the schemas under this configuration. -/
def dumper (c : Config) : Dumper := { connection := c.server.connection, program := c.dump.program }

/-- Fetches and reads the schema that an argument names. -/
def fetchTables (c : Config) (argument : Text) : Logged (List Table) := do
  let source ← .ofExcept (Source.ofArgument (← .files) argument)
  let dump ← source.fetch c.dumper c.dump.raw
  let reading := Dump.read dump
  .log reading.events
  .log (reading.notices.map (·.report argument))
  .log [⟨.info, "mysql_diff", "Parsed schema",
    [("source", .text argument), ("tables", .count reading.tables.length)]⟩]
  return reading.tables

/-- The script that turns the schema which `old` names into the one which `new` names. -/
def compare (c : Config) (old new : Text) : Logged Text := do
  let oldTables ← c.fetchTables old
  let newTables ← c.fetchTables new
  .log (Migration.events oldTables newTables)
  if (Migration.between oldTables newTables).isEmpty then
    .log [⟨.info, "mysql_diff", "Schemas are already in sync", []⟩]
  return migrationScript oldTables newTables

end Config
end SchemaDrift
