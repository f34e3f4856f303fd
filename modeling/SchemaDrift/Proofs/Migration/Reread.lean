import SchemaDrift.Migration.Script
import SchemaDrift.Proofs.Dump.Tables
import SchemaDrift.Proofs.Migration.Agreement

namespace SchemaDrift

open Dump

/-- The table a change brings into being. -/
def Change.created? : Change → Option Table
  | .create t => some t
  | .alter .. => none

/-- Whether a change can be written without disturbing a reading of the script: a table that comes
into being is one its content gives back, and an altering statement opens no block. -/
def Change.Readable : Change → Prop
  | .create t => IsBlock t.content ∧ blockTable? t.content = some t
  | .alter name clauses => ¬ opening <:+: (Change.alter name clauses).sql

section Statements

variable {t : Table} {name : Text} {clauses : List Clause}

theorem Change.sql_create (t : Table) : (Change.create t).sql = t.content ++ (";\n\n" : Text) := rfl

theorem Change.getLast?_sql (c : Change) : c.sql.getLast? = some '\n' := by
  cases c <;> exact List.getLast?_append_of_ne_nil _ (List.cons_ne_nil ';' _)

theorem tables_create_append (h : (Change.create t).Readable) (s : Text) :
    tables ((Change.create t).sql ++ s) = t :: tables s := by
  obtain ⟨hblock, ht⟩ := h
  have hends : Ends ((";\n\n" : Text) ++ s) := by
    intro c hc
    exact (Option.some.inj hc).symm
  have hclear : Text.Clear opening (";\n\n" : Text) s := by
    refine Text.clear_of_getLast (by decide) ?_
    rintro c ⟨⟩
    decide
  rw [Change.sql_create, List.append_assoc, tables_block_append hblock ht hends,
    tables_append_of_clear hclear]

theorem tables_alter_append (h : (Change.alter name clauses).Readable) (s : Text) :
    tables ((Change.alter name clauses).sql ++ s) = tables s := by
  apply tables_append_of_clear
  apply Text.clear_of_getLast h
  intro c hc
  rw [Change.getLast?_sql, Option.mem_some_iff] at hc
  subst hc
  decide

end Statements

/-- A script reads back as the tables that come into being in it. -/
theorem Migration.tables_script {m : Migration} (h : ∀ c ∈ m, c.Readable) :
    tables m.script = m.filterMap Change.created? := by
  -- each statement leaves a rest that is scanned on its own, because it ends in a line feed
  induction m with
  | nil => exact tables_nil
  | cons c m ih =>
    have hc : c.Readable := h c List.mem_cons_self
    have hm := ih fun c' hc' => h c' (List.mem_cons_of_mem _ hc')
    change tables (c.sql ++ Migration.script m) = _
    cases c with
    | create t =>
      rw [tables_create_append hc, hm]
      rfl
    | alter name clauses =>
      rw [tables_alter_append hc, hm]
      rfl

theorem bind_created?_change? (o n : Option Table) :
    (change? o n).bind Change.created? = if o = none then n else none := by
  cases h : change? o n with
  | none =>
    cases n with
    | none => cases o <;> rfl
    | some t =>
      obtain ⟨old, rfl, -⟩ := change?_eq_none_iff.mp h
      rfl
  | some c =>
    rcases change?_eq_some h with ⟨t, rfl, rfl, rfl⟩ | ⟨old, t, rfl, rfl, rfl⟩ <;> rfl

/-- The tables that come into being are the latest ones of the names the old side does not bear. -/
theorem Migration.filterMap_created?_between (old new : List Table) :
    (between old new).filterMap Change.created? =
      (latestBy Table.name new).filter (·.name ∉ old.map Table.name) := by
  rw [between, latestBy, List.filterMap_filterMap, List.filter_filterMap]
  apply List.filterMap_congr
  intro name _
  rw [bind_created?_change?, lastTable?_eq, lastTable?_eq]
  simp only [lastNamed?_eq_none_iff]
  cases hn : lastNamed? Table.name new name with
  | none => rw [ite_self, Option.filter_none]
  | some t =>
    rw [← name_of_lastNamed? hn]
    simp only [Option.filter_some, decide_eq_true_eq]

/-- A table that comes into being is one of the new side. -/
theorem Migration.mem_of_create_between {old new : List Table} {t : Table}
    (h : .create t ∈ between old new) : t ∈ new := by
  obtain ⟨name, -, hchange⟩ := List.mem_filterMap.mp h
  rcases change?_eq_some hchange with ⟨t', -, hn, ht⟩ | ⟨_, _, -, -, ht⟩
  · cases ht
    exact mem_of_lastNamed? hn
  · cases ht

/-- Only a table of the old side can be altered. -/
theorem Migration.mem_of_alter_between {old new : List Table} {name : Text} {clauses : List Clause}
    (h : .alter name clauses ∈ between old new) : name ∈ old.map Table.name := by
  obtain ⟨n, -, hchange⟩ := List.mem_filterMap.mp h
  rcases change?_eq_some hchange with ⟨_, -, -, hc⟩ | ⟨o, t, ho, hn, hc⟩
  · cases hc
  · cases hc
    rw [name_of_lastNamed? hn, ← name_of_lastNamed? ho]
    exact List.mem_map_of_mem (mem_of_lastNamed? ho)

/-- The script from any tables to those of a dump is itself a dump, of the tables that come into
being: as long as no altering statement opens a block, these are read back just as they were, each
name once and in ascending order. From nothing, all tables of the dump come back. -/
theorem tables_migrationScript (d : Text) :
    (∀ old, (∀ name clauses, .alter name clauses ∈ Migration.between old (tables d) →
        ¬ opening <:+: (Change.alter name clauses).sql) →
      tables (migrationScript old (tables d)) =
        (latestBy Table.name (tables d)).filter (·.name ∉ old.map Table.name)) ∧
    tables (migrationScript [] (tables d)) = latestBy Table.name (tables d) := by
  have hread : ∀ old, (∀ name clauses, .alter name clauses ∈ Migration.between old (tables d) →
      ¬ opening <:+: (Change.alter name clauses).sql) →
      tables (migrationScript old (tables d)) =
        (latestBy Table.name (tables d)).filter (·.name ∉ old.map Table.name) := by
    intro old h
    have hreadable : ∀ c ∈ Migration.between old (tables d), c.Readable := by
      intro c hc
      cases c with
      | create t =>
        exact isBlock_content (Migration.mem_of_create_between hc)
      | alter name clauses => exact h name clauses hc
    rw [migrationScript, Migration.tables_script hreadable, Migration.filterMap_created?_between]
  refine ⟨hread, ?_⟩
  rw [hread [] fun name clauses hc => absurd (Migration.mem_of_alter_between hc) List.not_mem_nil]
  simp only [List.map_nil, List.not_mem_nil, not_false_eq_true, decide_true, List.filter_true]

/-- A name declared twice, the second time by a block of an unknown line, next to an altered table. -/
theorem tables_migrationScript_redeclared :
    let again : Text := "CREATE TABLE `b` (\n  nothing\n) ENGINE=A"
    let d : Text := "CREATE TABLE `b` (\n  `x` int\n) ENGINE=A;\n" ++
      "CREATE TABLE `a` (\n  `y` int\n) ENGINE=A;\n" ++ again
    let old : List Table := [{ name := "a" }]
    (∀ name clauses, .alter name clauses ∈ Migration.between old (tables d) →
      ¬ opening <:+: (Change.alter name clauses).sql) ∧
    tables (migrationScript old (tables d)) = [{ name := "b", content := again }] := by
  intro again d old
  have hbetween : Migration.between old (tables d) =
      [.alter "a" [.addColumn ⟨"y", "int"⟩], .create { name := "b", content := again }] := by
    decide +kernel
  have halter : ∀ name clauses, .alter name clauses ∈ Migration.between old (tables d) →
      ¬ opening <:+: (Change.alter name clauses).sql := by
    intro name clauses h
    rw [hbetween] at h
    simp only [List.mem_cons, Change.alter.injEq, reduceCtorEq, List.not_mem_nil, or_false] at h
    obtain ⟨rfl, rfl⟩ := h
    decide
  refine ⟨halter, ?_⟩
  rw [(tables_migrationScript d).1 old halter]
  decide +kernel

end SchemaDrift
