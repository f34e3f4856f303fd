import SchemaDrift.Proofs.Dump.Tables
import SchemaDrift.Proofs.Migration.Clauses
import SchemaDrift.Proofs.Table.Columns
import SchemaDrift.Table.Document

namespace SchemaDrift

section Documents

/-- Items come back from a list if each of them comes back from its document. -/
theorem Document.listOf?_map {α : Type} (item? : Document → Option α) (write : α → Document)
    (h : ∀ x, item? (write x) = some x) (xs : List α) : listOf? item? (.list (xs.map write)) = some xs := by
  have hpure : item? ∘ write = fun x => pure x := funext h
  rw [listOf?, List.mapM_map, hpure, List.mapM_pure, List.map_id']
  rfl

/-- A table is restored from its document, repeated columns included. -/
theorem Table.ofDocument?_toDocument (t : Table) : ofDocument? t.toDocument = some t := by
  have hcolumns : Document.listOf? Column.ofDocument? (.list (t.columns.map Column.toDocument)) = some t.columns :=
    Document.listOf?_map _ Column.toDocument (fun _ => rfl) t.columns
  have hprimary : Document.listOf? Document.text? (.list (t.primary.map .text)) = some t.primary :=
    Document.listOf?_map _ Document.text (fun _ => rfl) t.primary
  have hkeys (ks : List Key) : Document.listOf? Key.ofDocument? (.list (ks.map Key.toDocument)) = some ks :=
    Document.listOf?_map _ Key.toDocument (fun _ => rfl) ks
  change (do
    return {
      name := t.name
      columns := ← Document.listOf? Column.ofDocument? (.list (t.columns.map Column.toDocument))
      primary := ← Document.listOf? Document.text? (.list (t.primary.map .text))
      keys := ← Document.listOf? Key.ofDocument? (.list (t.keys.map Key.toDocument))
      uniqueKeys := ← Document.listOf? Key.ofDocument? (.list (t.uniqueKeys.map Key.toDocument))
      content := t.content }) = some t
  rw [hcolumns, hprimary, hkeys, hkeys]
  rfl

end Documents

/-- The clauses of the statement that carries a change out, if it alters a table. -/
def Change.clauses : Change → List Clause
  | .create _ => []
  | .alter _ cs => cs

/-- All clauses of a migration. -/
def Migration.clauses (m : Migration) : List Clause := m.flatMap Change.clauses

namespace Table

variable {o t : Table} {n : Text}

/-- The definition of the column that a look-up finds. -/
def foundDefinition? (t : Table) (name : Text) : Option Text := (t.column? name).map Column.definition

/-- The clauses between two tables do about a column name what look-ups in the tables ask for: a column found in
the new table alone is added, one found in the old table alone is dropped, and one found in both with different
definitions is modified, each time to what is found in the new table. -/
structure FollowsLookUp (o t : Table) (n : Text) : Prop where
  add : ∀ c, c.name = n → (.addColumn c ∈ (Migration.between [o] [t]).clauses ↔
    o.column? n = none ∧ t.column? n = some c)
  drop : .dropColumn n ∈ (Migration.between [o] [t]).clauses ↔ (∃ c, o.column? n = some c) ∧ t.column? n = none
  modify : ∀ c, c.name = n → (.modifyColumn c ∈ (Migration.between [o] [t]).clauses ↔
    (∃ d, o.column? n = some d ∧ d.definition ≠ c.definition) ∧ t.column? n = some c)

/-- The first and the last columns of a name tell the same: the sides differ in the first ones exactly if they
differ in the last ones, and then the new side has one definition first and last. -/
def LooksAlike (o t : Table) (n : Text) : Prop :=
  (o.foundDefinition? n = t.foundDefinition? n ↔ o.definition? n = t.definition? n) ∧
    (o.foundDefinition? n ≠ t.foundDefinition? n → t.foundDefinition? n = t.definition? n)

/-- Tables that come from a dump or from a builder. -/
inductive IsMade : Table → Prop
  | read {dump : Text} {t : Table} (h : t ∈ Dump.tables dump) : IsMade t
  | built (name : Text) (steps : List BuildStep) : IsMade (build name steps)

theorem IsMade.nodup (h : IsMade t) : (t.columns.map Column.name).Nodup := by
  cases h with
  | built name steps => exact nodup_build name steps
  | read h =>
    rw [Dump.tables_eq] at h
    obtain ⟨block, -, hblock⟩ := List.mem_filterMap.mp h
    obtain ⟨name, -, rfl⟩ := Option.map_eq_some_iff.mp hblock
    exact nodup_build name _

/-- The clauses of the migration between two tables of one name. -/
theorem clauses_between (h : o.name = t.name) : (Migration.between [o] [t]).clauses = tableClauses o t := by
  have hold : lastTable? [o] t.name = some o := by simp [lastTable?, h]
  have hnew : lastTable? [t] t.name = some t := by simp [lastTable?]
  have hbetween : Migration.between [o] [t] = (change? (some o) (some t)).toList := by
    change [t.name].filterMap (fun name => change? (lastTable? [o] name) (lastTable? [t] name)) = _
    rw [List.filterMap_cons, hold, hnew]
    cases change? (some o) (some t) <;> rfl
  rw [hbetween, change?]
  split
  next hnil => rw [hnil]; rfl
  next => exact List.append_nil _

theorem name_of_column? {c : Column} (h : t.column? n = some c) : c.name = n := by
  simpa using List.find?_some h

/-- A look-up finds a column of a name if there is one, as the search for the last one does. -/
theorem column?_eq_none_iff : t.column? n = none ↔ lastColumn? t.columns n = none := by
  rw [lastColumn?_eq, lastNamed?_eq_none_iff, column?, List.find?_eq_none]
  simp

/-- There is no column of a name, or a first and a last one. -/
theorem columns_of_name (t : Table) (n : Text) : t.column? n = none ∧ lastColumn? t.columns n = none ∨
    ∃ first last, t.column? n = some first ∧ lastColumn? t.columns n = some last ∧ first.name = n ∧ last.name = n := by
  cases hfirst : t.column? n with
  | none => exact .inl ⟨rfl, column?_eq_none_iff.mp hfirst⟩
  | some first =>
    have hsome : lastColumn? t.columns n ≠ none := by
      rw [ne_eq, ← column?_eq_none_iff, hfirst]
      exact Option.some_ne_none first
    obtain ⟨last, hlast⟩ := Option.ne_none_iff_exists'.mp hsome
    exact .inr ⟨first, last, rfl, hlast, name_of_column? hfirst, name_of_lastNamed? hlast⟩

/-- Columns of one name are told apart by their definitions. -/
theorem column_eq_iff {c d : Column} (hc : c.name = n) (hd : d.name = n) : c = d ↔ c.definition = d.definition := by
  cases c
  cases d
  simp_all

/-- A clause about a name is among those between two tables exactly if the last columns of the name ask for it. -/
theorem mem_clauses_between_iff {c : Clause} (h : o.name = t.name) (hc : c.column? = some n) :
    c ∈ (Migration.between [o] [t]).clauses ↔
      columnClause? (lastColumn? o.columns n) (lastColumn? t.columns n) = some c := by
  rw [clauses_between h, mem_tableClauses_iff, columnClause?_eq_some_iff]
  exact (and_iff_right hc).symm

/-- What look-ups under a name ask for is about that name. -/
theorem column?_of_columnClause? {c : Clause} (h : columnClause? (o.column? n) (t.column? n) = some c) :
    c.column? = some n := by
  cases ho : o.column? n with
  | none =>
    cases ht : t.column? n with
    | none =>
      rw [ho, ht, columnClause?] at h
      cases h
    | some x =>
      rw [ho, ht, columnClause?] at h
      cases h
      exact congrArg some (name_of_column? ht)
  | some a =>
    cases ht : t.column? n with
    | none =>
      rw [ho, ht, columnClause?] at h
      cases h
      exact congrArg some (name_of_column? ho)
    | some x =>
      rw [ho, ht, columnClause?, Option.ite_none_left_eq_some] at h
      obtain ⟨-, h⟩ := h
      cases h
      exact congrArg some (name_of_column? ht)

/-- The clauses follow the look-ups exactly if first and last columns ask for the same. -/
theorem followsLookUp_iff_columnClause? (h : o.name = t.name) : FollowsLookUp o t n ↔
    columnClause? (lastColumn? o.columns n) (lastColumn? t.columns n) = columnClause? (o.column? n) (t.column? n) := by
  have hadd (c : Column) : columnClause? (o.column? n) (t.column? n) = some (.addColumn c) ↔
      o.column? n = none ∧ t.column? n = some c := by
    cases o.column? n <;> cases t.column? n <;> simp [columnClause?]
  have hdrop : columnClause? (o.column? n) (t.column? n) = some (.dropColumn n) ↔
      (∃ c, o.column? n = some c) ∧ t.column? n = none := by
    cases ho : o.column? n <;> cases t.column? n <;> simp [columnClause?]
    exact name_of_column? ho
  have hmodify (c : Column) : columnClause? (o.column? n) (t.column? n) = some (.modifyColumn c) ↔
      (∃ d, o.column? n = some d ∧ d.definition ≠ c.definition) ∧ t.column? n = some c := by
    cases o.column? n <;> cases t.column? n <;> simp [columnClause?]
    rintro rfl
    rfl
  constructor
  · intro hfollows
    have hmem {c : Clause} (hc : c.column? = some n) : c ∈ (Migration.between [o] [t]).clauses ↔
        columnClause? (o.column? n) (t.column? n) = some c := by
      cases c with
      | addColumn c => rw [hfollows.add c (Option.some.inj hc), hadd]
      | dropColumn m =>
        obtain rfl : m = n := Option.some.inj hc
        rw [hfollows.drop, hdrop]
      | modifyColumn c => rw [hfollows.modify c (Option.some.inj hc), hmodify]
      | addKey kind k => cases hc
      | dropKey m => cases hc
    ext c
    by_cases hc : c.column? = some n
    · rw [← mem_clauses_between_iff h hc, hmem hc]
    · -- no clause about another name is asked for
      constructor
      · intro hlast
        exact absurd (columnClause?_eq_some_iff.mp hlast).1 hc
      · intro hfirst
        exact absurd (column?_of_columnClause? hfirst) hc
  · intro heq
    refine ⟨fun c hc => ?_, ?_, fun c hc => ?_⟩
    · have hcolumn : (Clause.addColumn c).column? = some n := hc ▸ rfl
      rw [mem_clauses_between_iff h hcolumn, heq, hadd]
    · rw [mem_clauses_between_iff h rfl, heq, hdrop]
    · have hcolumn : (Clause.modifyColumn c).column? = some n := hc ▸ rfl
      rw [mem_clauses_between_iff h hcolumn, heq, hmodify]

/-- The clauses follow the look-ups exactly if the first and the last columns of a name tell the same. -/
theorem followsLookUp_iff (h : o.name = t.name) : FollowsLookUp o t n ↔ LooksAlike o t n := by
  rw [followsLookUp_iff_columnClause? h, LooksAlike]
  simp only [foundDefinition?, definition?]
  rcases columns_of_name o n with ⟨ho, ho'⟩ | ⟨a, b, ho, ho', ha, hb⟩ <;>
    rcases columns_of_name t n with ⟨ht, ht'⟩ | ⟨x, y, ht, ht', hx, hy⟩ <;>
    simp only [columnClause?, ho, ho', ht, ht', Option.map_some, Option.map_none]
  · simp
  · simp [← column_eq_iff hx hy, eq_comm]
  · simp [ha, hb]
  · have hxy := column_eq_iff hx hy
    by_cases hfirst : a.definition = x.definition <;> by_cases hlast : b.definition = y.definition <;>
      simp [hfirst, hlast, ← hxy, eq_comm]

/-- Where no column name repeats, the first column of a name is the last one. -/
theorem foundDefinition?_eq (h : (t.columns.map Column.name).Nodup) (n : Text) :
    t.foundDefinition? n = t.definition? n :=
  congrArg (Option.map Column.definition) (column?_eq_lastColumn? h n)

theorem looksAlike_of_nodup (ho : (o.columns.map Column.name).Nodup) (ht : (t.columns.map Column.name).Nodup)
    (n : Text) : LooksAlike o t n := by
  rw [LooksAlike, foundDefinition?_eq ho, foundDefinition?_eq ht]
  exact ⟨Iff.rfl, fun _ => rfl⟩

/-- The clauses between two tables of one name follow the look-ups under a column name exactly if the first and
the last columns of that name tell the same. So it is for tables that come from dumps and builders, as no column
name repeats there. Tables that are loaded may be any at all: each list of tables comes back from its document,
with the columns it has. -/
theorem follows_look_up_iff (h : o.name = t.name) (n : Text) :
    (FollowsLookUp o t n ↔ LooksAlike o t n) ∧ (IsMade o → IsMade t → FollowsLookUp o t n) ∧
    ∀ ts : List Table, listOfDocument? (.list (ts.map toDocument)) = some ts := by
  refine ⟨followsLookUp_iff h, fun ho ht => ?_, fun ts => ?_⟩
  · exact (followsLookUp_iff h).mpr (looksAlike_of_nodup ho.nodup ht.nodup n)
  · exact Document.listOf?_map _ toDocument ofDocument?_toDocument ts

/-- A column that is added twice in the old table, and modified. -/
theorem follows_look_up_repeated :
    let o := build "t" [.column ⟨"a", "int"⟩, .column ⟨"b", "int"⟩, .column ⟨"a", "bigint"⟩]
    let dump : Text := "CREATE TABLE `t` (\n  `a` int,\n  `b` int\n) ENGINE;"
    ∃ t ∈ Dump.tables dump, o.name = t.name ∧ IsMade o ∧ IsMade t ∧ FollowsLookUp o t "a" ∧
      o.column? "a" = some ⟨"a", "bigint"⟩ ∧ t.column? "a" = some ⟨"a", "int"⟩ := by
  intro o dump
  let t : Table := build "t" [.content "CREATE TABLE `t` (\n  `a` int,\n  `b` int\n) ENGINE",
    .column ⟨"a", "int"⟩, .column ⟨"b", "int"⟩]
  have ht : t ∈ Dump.tables dump := by decide +kernel
  have hmade : IsMade o := .built _ _
  have hname : o.name = t.name := rfl
  exact ⟨t, ht, hname, hmade, .read ht, (follows_look_up_iff hname "a").2.1 hmade (.read ht), rfl, rfl⟩

/-- A document may repeat a column. A look-up sees the first definition and the clauses are about the last one:
here a column is modified that look-ups in both tables find with one definition. -/
theorem modified_despite_look_up :
    let column (definition : Text) : Document := .record [("name", .text "a"), ("definition", .text definition)]
    let table (columns : List Document) : Document := .list [.record [("table_name", .text "t"),
      ("columns", .list columns), ("primary_keys", .list []), ("keys", .list []), ("unique_keys", .list []),
      ("content", .text [])]]
    ∃ o t, listOfDocument? (table [column "int", column "bigint"]) = some [o] ∧
      listOfDocument? (table [column "int"]) = some [t] ∧ o.name = t.name ∧ o.column? "a" = t.column? "a" ∧
      .modifyColumn ⟨"a", "int"⟩ ∈ (Migration.between [o] [t]).clauses ∧ ¬ FollowsLookUp o t "a" := by
  intro column table
  let o : Table := { name := "t", columns := [⟨"a", "int"⟩, ⟨"a", "bigint"⟩] }
  let t : Table := { name := "t", columns := [⟨"a", "int"⟩] }
  have hmodified : .modifyColumn ⟨"a", "int"⟩ ∈ (Migration.between [o] [t]).clauses := by decide
  refine ⟨o, t, rfl, rfl, rfl, rfl, hmodified, fun hfollows => ?_⟩
  obtain ⟨⟨d, hd, hne⟩, -⟩ := (hfollows.modify ⟨"a", "int"⟩ rfl).mp hmodified
  exact hne (by cases hd; rfl)

end Table
end SchemaDrift
