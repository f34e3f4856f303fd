import SchemaDrift.Dump.Reading
import SchemaDrift.Log.Event

namespace SchemaDrift.Dump

def target : Text := "mysql_diff::schema::parser"

/-- What the log says when the reading comes upon something that no table holds. -/
def Notice.event : Notice → Event
  | .unnamedBlock index =>
    ⟨.warn, target, "CREATE TABLE block without a table name, skipping", [("block_index", .count index)]⟩
  | .skippedLine table _ line =>
    ⟨.debug, target, "Unrecognised line in table definition", [("table", .text table), ("line", .text line)]⟩

/-- What the log says about a reading: each notice as it comes up, and a summary. -/
def Reading.events (r : Reading) : List Event :=
  r.notices.map Notice.event ++
    [⟨.debug, target, "Parsed schema dump",
      [("tables", .count r.tables.length), ("warnings", .count r.notices.length)]⟩]

end SchemaDrift.Dump
