import SchemaDrift.Table.Build
import SchemaDrift.Proofs.Migration.Agreement

namespace SchemaDrift

namespace Table

/-- The indexes of a table with their kinds. -/
def indexes (t : Table) : List (KeyKind × Key) :=
  t.keys.map (KeyKind.ordinary, ·) ++ t.uniqueKeys.map (KeyKind.unique, ·)

/-- The declared names of the indexes; a server keeps one name for one index, whatever its kind. -/
def indexNames (t : Table) : List Text := t.indexes.map (·.2.name)

/-- A table with one column of each name, which is what a server makes of it. -/
def settled (t : Table) : Table := { t with columns := latestBy Column.name t.columns }

end Table

namespace Clause

/-- What the table has to be like for a clause to be carried out. -/
def Fits (t : Table) : Clause → Prop
  | .addColumn c => c.name ∉ t.columns.map Column.name
  | .dropColumn name => name ∈ t.columns.map Column.name
  | .modifyColumn c => c.name ∈ t.columns.map Column.name
  | .addKey _ _ => True
  | .dropKey name => t.indexNames.count name = 1

instance (t : Table) : (c : Clause) → Decidable (c.Fits t)
  | .addColumn c => inferInstanceAs (Decidable (c.name ∉ t.columns.map Column.name))
  | .dropColumn name => inferInstanceAs (Decidable (name ∈ t.columns.map Column.name))
  | .modifyColumn c => inferInstanceAs (Decidable (c.name ∈ t.columns.map Column.name))
  | .addKey _ _ => inferInstanceAs (Decidable True)
  | .dropKey name => inferInstanceAs (Decidable (t.indexNames.count name = 1))

/-- The table after a clause. -/
def effect (t : Table) : Clause → Table
  | .addColumn c => { t with columns := t.columns ++ [c] }
  | .dropColumn name => { t with columns := t.columns.filter (·.name ≠ name) }
  | .modifyColumn c =>
    { t with columns := t.columns.map fun d => if d.name = c.name then c else d }
  | .addKey kind k => t.add (.key kind k)
  | .dropKey name =>
    { t with
      keys := t.keys.filter (·.name ≠ name)
      uniqueKeys := t.uniqueKeys.filter (·.name ≠ name) }

/-- Carries a clause out, or fails where it does not fit. -/
def carryOut? (t : Table) (c : Clause) : Option Table := if c.Fits t then some (c.effect t) else none

theorem carryOut?_eq_some {t : Table} {c : Clause} (h : c.Fits t) : c.carryOut? t = some (c.effect t) :=
  if_pos h

def dropsIndex : Clause → Bool
  | .dropKey _ => true
  | _ => false

end Clause

/-- Carries out the clauses of one statement. They are one change, so an index is dropped from those
the table had before and never from those the statement adds: the drops go first. -/
def Table.alter? (t : Table) (clauses : List Clause) : Option Table :=
  (clauses.filter Clause.dropsIndex ++ clauses.filter (!·.dropsIndex)).foldlM Clause.carryOut? t

/-- The tables that a server holds when it was given these: the last one of each name. -/
def catalog (ts : List Table) : List Table := (latestBy Table.name ts).map Table.settled

/-- Puts a table in the place of the one of that name. -/
def replaceTable (name : Text) (altered : Table) (ts : List Table) : List Table :=
  ts.map fun u => if u.name = name then altered else u

/-- Carries a statement out. A new table must not exist yet, and one to alter must. -/
def Change.carryOut? (ts : List Table) : Change → Option (List Table)
  | .create t =>
    match lastTable? ts t.name with
    | some _ => none
    | none => some (ts ++ [t.settled])
  | .alter name clauses => do
    let t ← lastTable? ts name
    let altered ← t.alter? clauses
    some (replaceTable name altered ts)

/-- Carries out the statements of a migration, one behind the other. -/
def Migration.carryOut? (m : Migration) (ts : List Table) : Option (List Table) :=
  m.foldlM Change.carryOut? ts

namespace Table

variable {t : Table} {kind : KeyKind} {k : Key} {n : Text}

theorem mem_indexes : (kind, k) ∈ t.indexes ↔ k ∈ t.keysOf kind := by
  cases kind <;> simp [indexes, keysOf]

theorem definition?_eq_none_iff : t.definition? n = none ↔ n ∉ t.columns.map Column.name := by
  rw [definition?, Option.map_eq_none_iff, lastColumn?_eq, lastNamed?_eq_none_iff]

@[simp] theorem definition?_settled : t.settled.definition? n = t.definition? n := by
  rw [definition?, lastColumn?_eq, settled, lastNamed?_latestBy]
  rfl

theorem settled_agrees (t : Table) : t.settled.Agrees t :=
  ⟨fun _ => definition?_settled, fun kind _ => by cases kind <;> exact Iff.rfl⟩

end Table

theorem lastTable?_catalog (ts : List Table) (n : Text) :
    lastTable? (catalog ts) n = (lastTable? ts n).map Table.settled := by
  rw [lastTable?_eq, catalog, lastNamed?_map (g := Table.settled) fun _ _ => rfl, lastNamed?_latestBy]
  rfl

section Replace

variable {name : Text} {altered : Table} {ts : List Table}

theorem name_replaced (h : altered.name = name) (u : Table) :
    (if u.name = name then altered else u).name = u.name := by
  split
  next he => rw [h, he]
  next => rfl

theorem map_name_replaceTable (h : altered.name = name) :
    (replaceTable name altered ts).map Table.name = ts.map Table.name := by
  rw [replaceTable, List.map_map]
  exact List.map_congr_left fun u _ => name_replaced h u

theorem lastTable?_replaceTable (h : altered.name = name) (n : Text) :
    lastTable? (replaceTable name altered ts) n =
      if n = name then (lastTable? ts n).map fun _ => altered else lastTable? ts n := by
  rw [lastTable?_eq, replaceTable, lastNamed?_map fun u _ => name_replaced h u, lastTable?_eq]
  cases hu : lastNamed? Table.name ts n with
  | none => simp
  | some u =>
    rw [Option.map_some, Option.map_some, name_of_lastNamed? hu]
    split <;> rfl

end Replace

theorem map_name_catalog (ts : List Table) :
    (catalog ts).map Table.name = sortedNames (ts.map Table.name) := by
  rw [catalog, List.map_map, ← map_name_latestBy]
  rfl

end SchemaDrift
