import SchemaDrift.Log.Event
import SchemaDrift.Migration.Compare

namespace SchemaDrift.Migration

def target : Text := "mysql_diff::schema::diff"

def changeEvent : Change → Event
  | .create t => ⟨.debug, target, "New table", [("table", .text t.name)]⟩
  | .alter name clauses =>
    ⟨.debug, target, "Altered table", [("table", .text name), ("clauses", .count clauses.length)]⟩

def untouchedEvent (name : Text) : Event :=
  ⟨.debug, target, "Table only exists in the old schema, not dropping it", [("table", .text name)]⟩

/-- What the log says about the comparison of two schemas: the changes, then the tables left alone. -/
def events (old new : List Table) : List Event :=
  (between old new).map changeEvent ++ (untouchedNames old new).map untouchedEvent

end SchemaDrift.Migration
