import SchemaDrift.Table.Basic

namespace SchemaDrift

/-- Puts a column: a repeated name keeps its place and takes the new definition. -/
def putColumn (c : Column) : List Column → List Column
  | [] => [c]
  | d :: r => if d.name = c.name then c :: r else d :: putColumn c r

/-- One addition to a table under construction. -/
inductive BuildStep where
  | column (c : Column)
  | primary (spec : Text)
  | key (kind : KeyKind) (k : Key)
  | content (block : Text)
  deriving DecidableEq, Repr

namespace Table

def add (t : Table) : BuildStep → Table
  | .column c => { t with columns := putColumn c t.columns }
  | .primary spec => { t with primary := t.primary ++ [spec] }
  | .key .ordinary k => { t with keys := t.keys ++ [k] }
  | .key .unique k => { t with uniqueKeys := t.uniqueKeys ++ [k] }
  | .content block => { t with content := block }

/-- The table of that name after these additions. -/
def build (name : Text) (steps : List BuildStep) : Table := steps.foldl add { name }

end Table
end SchemaDrift
