import SchemaDrift.Table.Basic

namespace SchemaDrift

/-- A value of a data format with named fields. -/
inductive Document where
  | null
  | boolean (b : Bool)
  | number (n : Nat)
  | text (t : Text)
  | list (items : List Document)
  | record (fields : List (Text × Document))
  deriving Inhabited

namespace Document

def text? : Document → Option Text
  | .text t => some t
  | _ => none

/-- The items of a list, all of which `item?` has to accept. -/
def listOf? {α : Type} (item? : Document → Option α) : Document → Option (List α)
  | .list items => items.mapM item?
  | _ => none

/-- The values of the named fields, in that order. A record has to give each of them exactly once
and may have others; a list has to give exactly these. -/
def fields? (names : List Text) : Document → Option (List Document)
  | .record fields => names.mapM fun name =>
      match fields.filter (·.1 = name) with
      | [(_, value)] => some value
      | _ => none
  | .list items => if items.length = names.length then some items else none
  | _ => none

end Document

namespace Column

def ofDocument? (d : Document) : Option Column :=
  match d.fields? ["name", "definition"] with
  | some [name, definition] => do return ⟨← name.text?, ← definition.text?⟩
  | _ => none

def toDocument (c : Column) : Document :=
  .record [("name", .text c.name), ("definition", .text c.definition)]

end Column

namespace Key

def ofDocument? (d : Document) : Option Key :=
  match d.fields? ["name", "column"] with
  | some [name, spec] => do return ⟨← name.text?, ← spec.text?⟩
  | _ => none

def toDocument (k : Key) : Document := .record [("name", .text k.name), ("column", .text k.spec)]

end Key

namespace Table

/-- The table a document describes. Columns are taken as they are given, repeated names included. -/
def ofDocument? (d : Document) : Option Table :=
  match d.fields? ["table_name", "columns", "primary_keys", "keys", "unique_keys", "content"] with
  | some [name, columns, primary, keys, uniqueKeys, content] => do
    return {
      name := ← name.text?
      columns := ← columns.listOf? Column.ofDocument?
      primary := ← primary.listOf? Document.text?
      keys := ← keys.listOf? Key.ofDocument?
      uniqueKeys := ← uniqueKeys.listOf? Key.ofDocument?
      content := ← content.text?
    }
  | _ => none

def toDocument (t : Table) : Document :=
  .record [
    ("table_name", .text t.name),
    ("columns", .list (t.columns.map Column.toDocument)),
    ("primary_keys", .list (t.primary.map .text)),
    ("keys", .list (t.keys.map Key.toDocument)),
    ("unique_keys", .list (t.uniqueKeys.map Key.toDocument)),
    ("content", .text t.content)]

/-- The tables a document lists. -/
def listOfDocument? (d : Document) : Option (List Table) := d.listOf? ofDocument?

end Table
end SchemaDrift
