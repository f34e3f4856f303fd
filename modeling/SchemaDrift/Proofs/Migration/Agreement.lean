import SchemaDrift.Migration.Script
import SchemaDrift.Proofs.Migration.LastWins

namespace SchemaDrift

namespace Table

/-- The definition of the last column of that name. -/
def definition? (t : Table) (name : Text) : Option Text :=
  (lastColumn? t.columns name).map Column.definition

/-- The column specs of the keys of one kind. -/
def specs (t : Table) (kind : KeyKind) : List Text := (t.keysOf kind).map Key.spec

/-- Two tables that declare the same columns and, in each kind, keys over the same column specs. How
keys are called, how often a spec is declared and where a column stands make no difference. -/
structure Agrees (a b : Table) : Prop where
  definitions : ∀ name, a.definition? name = b.definition? name
  specs : ∀ kind spec, spec ∈ a.specs kind ↔ spec ∈ b.specs kind

theorem Agrees.refl (t : Table) : t.Agrees t := ⟨fun _ => rfl, fun _ _ => Iff.rfl⟩

theorem Agrees.trans {a b c : Table} (h : a.Agrees b) (k : b.Agrees c) : a.Agrees c :=
  ⟨fun n => (h.definitions n).trans (k.definitions n),
    fun kind spec => (h.specs kind spec).trans (k.specs kind spec)⟩

end Table

/-- The old side has every table of the new one, and the last tables of a name agree. -/
def Covers (old new : List Table) : Prop :=
  ∀ name ∈ new.map Table.name, ∃ o t,
    lastTable? old name = some o ∧ lastTable? new name = some t ∧ o.Agrees t

theorem Covers.refl (ts : List Table) : Covers ts ts := by
  intro name hname
  obtain ⟨t, ht⟩ := exists_lastNamed? hname
  exact ⟨t, t, ht, ht, .refl t⟩

theorem Covers.trans {a b c : List Table} (h : Covers a b) (k : Covers b c) : Covers a c := by
  intro name hname
  obtain ⟨u, t, hu, ht, hut⟩ := k name hname
  have hb : name ∈ b.map Table.name := by
    rw [← name_of_lastNamed? hu]
    exact List.mem_map_of_mem (mem_of_lastNamed? hu)
  obtain ⟨o, v, ho, hv, hov⟩ := h name hb
  rw [hu] at hv
  cases hv
  exact ⟨o, t, ho, ht, hov.trans hut⟩

section Clauses

theorem columnClause?_eq_none_iff {a b : Option Column} :
    columnClause? a b = none ↔ a.map Column.definition = b.map Column.definition := by
  cases a <;> cases b <;> simp [columnClause?]

theorem columnClauses_eq_nil_iff {old new : List Column} :
    columnClauses old new = [] ↔
      ∀ n, (lastColumn? old n).map Column.definition = (lastColumn? new n).map Column.definition := by
  rw [columnClauses, List.filterMap_eq_nil_iff]
  constructor
  · intro h n
    by_cases hn : n ∈ sortedNames (old.map Column.name ++ new.map Column.name)
    · exact columnClause?_eq_none_iff.mp (h n hn)
    · -- a name that neither side bears is in neither map
      rw [mem_sortedNames, List.mem_append, not_or] at hn
      have ho : lastColumn? old n = none := lastNamed?_eq_none_iff.mpr hn.1
      have hw : lastColumn? new n = none := lastNamed?_eq_none_iff.mpr hn.2
      rw [ho, hw]
  · intro h n _
    exact columnClause?_eq_none_iff.mpr (h n)

/-- The keys to add: one for every spec that only the new side has, under its synthesized name. -/
def addedKeys (old new : List Key) : List Key :=
  ((new.map Key.spec).filter (!(old.map Key.spec).contains ·)).eraseDups.map fun spec =>
    ⟨indexName spec, spec⟩

/-- The declared names of the old keys whose specs the new side lacks. -/
def droppedNames (old new : List Key) : List Text :=
  (old.filter (!(new.map Key.spec).contains ·.spec)).map Key.name

theorem keyClauses_eq (kind : KeyKind) (old new : List Key) :
    keyClauses kind old new =
      (addedKeys old new).map (.addKey kind) ++ (droppedNames old new).map .dropKey := by
  simp only [keyClauses, addedKeys, droppedNames, List.map_map, List.contains_eq_mem, decide_not]
  rfl

theorem mem_addedKeys {old new : List Key} {k : Key} :
    k ∈ addedKeys old new ↔
      k.name = indexName k.spec ∧ k.spec ∈ new.map Key.spec ∧ k.spec ∉ old.map Key.spec := by
  rcases k with ⟨n, s⟩
  simp only [addedKeys, List.mem_map (f := fun spec => Key.mk (indexName spec) spec),
    List.mem_eraseDups, List.mem_filter, List.contains_eq_mem, Bool.not_eq_true', decide_eq_false_iff_not,
    Key.mk.injEq]
  constructor
  · rintro ⟨s', h, rfl, rfl⟩
    exact ⟨rfl, h⟩
  · rintro ⟨rfl, h⟩
    exact ⟨s, h, rfl, rfl⟩

theorem mem_droppedNames {old new : List Key} {n : Text} :
    n ∈ droppedNames old new ↔ ∃ k ∈ old, k.spec ∉ new.map Key.spec ∧ k.name = n := by
  simp only [droppedNames, List.mem_map (f := Key.name), List.mem_filter, List.contains_eq_mem,
    Bool.not_eq_true', decide_eq_false_iff_not, and_assoc]

theorem addedKeys_eq_nil_iff {old new : List Key} :
    addedKeys old new = [] ↔ ∀ spec ∈ new.map Key.spec, spec ∈ old.map Key.spec := by
  rw [List.eq_nil_iff_forall_not_mem]
  constructor
  · intro h spec hnew
    by_contra hold
    exact h ⟨indexName spec, spec⟩ (mem_addedKeys.mpr ⟨rfl, hnew, hold⟩)
  · intro h k hk
    obtain ⟨-, hnew, hold⟩ := mem_addedKeys.mp hk
    exact hold (h _ hnew)

theorem droppedNames_eq_nil_iff {old new : List Key} :
    droppedNames old new = [] ↔ ∀ spec ∈ old.map Key.spec, spec ∈ new.map Key.spec := by
  rw [List.eq_nil_iff_forall_not_mem]
  constructor
  · intro h spec hold
    by_contra hnew
    obtain ⟨k, hk, rfl⟩ := List.mem_map.mp hold
    exact h k.name (mem_droppedNames.mpr ⟨k, hk, hnew, rfl⟩)
  · intro h n hn
    obtain ⟨k, hk, hnew, -⟩ := mem_droppedNames.mp hn
    exact hnew (h _ (List.mem_map_of_mem hk))

theorem keyClauses_eq_nil_iff {kind : KeyKind} {old new : List Key} :
    keyClauses kind old new = [] ↔ ∀ spec, spec ∈ old.map Key.spec ↔ spec ∈ new.map Key.spec := by
  rw [keyClauses_eq, List.append_eq_nil_iff, List.map_eq_nil_iff, List.map_eq_nil_iff,
    addedKeys_eq_nil_iff, droppedNames_eq_nil_iff]
  exact ⟨fun h spec => ⟨h.2 spec, h.1 spec⟩, fun h => ⟨fun s => (h s).mpr, fun s => (h s).mp⟩⟩

theorem tableClauses_eq_nil_iff {old new : Table} : tableClauses old new = [] ↔ old.Agrees new := by
  rw [tableClauses, List.append_eq_nil_iff, List.append_eq_nil_iff, columnClauses_eq_nil_iff,
    keyClauses_eq_nil_iff, keyClauses_eq_nil_iff]
  constructor
  · rintro ⟨⟨hc, hk⟩, hu⟩
    refine ⟨hc, fun kind => ?_⟩
    cases kind
    · exact hk
    · exact hu
  · intro h
    exact ⟨⟨h.definitions, h.specs .ordinary⟩, h.specs .unique⟩

end Clauses

theorem change?_eq_none_iff {o : Option Table} {t : Table} :
    change? o (some t) = none ↔ ∃ old, o = some old ∧ old.Agrees t := by
  cases o with
  | none => simp [change?]
  | some old =>
    simp only [change?, Option.some.injEq, exists_eq_left']
    rw [← tableClauses_eq_nil_iff]
    split <;> simp_all

/-- What a change can be: a table that only the new side has comes into being, and one that both
sides have takes the clauses between them. -/
theorem change?_eq_some {o n : Option Table} {c : Change} (h : change? o n = some c) :
    (∃ t, o = none ∧ n = some t ∧ c = .create t) ∨
      ∃ old t, o = some old ∧ n = some t ∧ c = .alter t.name (tableClauses old t) := by
  cases n with
  | none => simp [change?] at h
  | some t =>
    cases o with
    | none =>
      rw [change?, Option.some.injEq] at h
      exact .inl ⟨t, rfl, rfl, h.symm⟩
    | some old =>
      rw [change?] at h
      split at h
      · exact absurd h.symm (Option.some_ne_none _)
      · exact .inr ⟨old, t, rfl, rfl, (Option.some.inj h).symm⟩

namespace Migration

theorem between_eq_nil_iff {old new : List Table} : between old new = [] ↔ Covers old new := by
  rw [between, List.filterMap_eq_nil_iff]
  constructor
  · intro h name hname
    obtain ⟨t, ht⟩ := exists_lastNamed? hname
    have hc := h name (mem_sortedNames.mpr hname)
    rw [lastTable?_eq new, ht, change?_eq_none_iff] at hc
    obtain ⟨o, ho, hot⟩ := hc
    exact ⟨o, t, ho, ht, hot⟩
  · intro h name hname
    obtain ⟨o, t, ho, ht, hot⟩ := h name (mem_sortedNames.mp hname)
    rw [ht, change?_eq_none_iff]
    exact ⟨o, ho, hot⟩

/-- Every statement has its end. -/
theorem sql_ne_nil (c : Change) : c.sql ≠ [] := by
  have hend : ((";\n\n" : String) : Text) ≠ [] := by decide
  cases c <;> exact List.append_ne_nil_of_right_ne_nil _ hend

theorem script_eq_nil_iff {m : Migration} : m.script = [] ↔ m = [] := by
  rw [script, List.flatMap_eq_nil_iff]
  constructor
  · intro h
    rw [List.eq_nil_iff_forall_not_mem]
    exact fun c hc => sql_ne_nil c (h c hc)
  · rintro rfl
    simp

end Migration

theorem migrationScript_eq_nil_iff {old new : List Table} :
    migrationScript old new = [] ↔ Covers old new :=
  Migration.script_eq_nil_iff.trans Migration.between_eq_nil_iff

/-- Nothing has to be done exactly when the old side covers the new one, and then nothing is
written. So a schema needs no migration to itself, and two schemas without a migration in between
pass that on along a chain. -/
theorem no_migration_iff_covers :
    (∀ old new, (Migration.between old new = [] ↔ Covers old new) ∧
      (migrationScript old new = [] ↔ Migration.between old new = [])) ∧
    (∀ ts, migrationScript ts ts = []) ∧
    (∀ a b c, migrationScript a b = [] → migrationScript b c = [] → migrationScript a c = []) := by
  refine ⟨fun old new => ⟨Migration.between_eq_nil_iff, Migration.script_eq_nil_iff⟩, ?_, ?_⟩
  · intro ts
    exact migrationScript_eq_nil_iff.mpr (.refl ts)
  · intro a b c hab hbc
    rw [migrationScript_eq_nil_iff] at hab hbc ⊢
    exact hab.trans hbc

/-- A chain along which an index changes its name, a spec comes twice and a column moves. -/
theorem no_migration_along_chain :
    let a : List Table := [
      { name := "t", columns := [⟨"x", "int"⟩, ⟨"y", "int"⟩], keys := [⟨"k", "`x`"⟩] }]
    let b : List Table := [
      { name := "t", columns := [⟨"y", "int"⟩, ⟨"x", "int"⟩], keys := [⟨"l", "`x`"⟩] }]
    let c : List Table := [
      { name := "t" },
      { name := "t", columns := [⟨"y", "text"⟩, ⟨"x", "int"⟩, ⟨"y", "int"⟩]
        keys := [⟨"m", "`x`"⟩, ⟨"n", "`x`"⟩] }]
    migrationScript a b = [] ∧ migrationScript b c = [] ∧ migrationScript a c = [] := by
  intro a b c
  have hab : migrationScript a b = [] := by decide
  have hbc : migrationScript b c = [] := by decide
  exact ⟨hab, hbc, no_migration_iff_covers.2.2 a b c hab hbc⟩

end SchemaDrift
