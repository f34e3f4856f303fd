import SchemaDrift.Migration.Script
import SchemaDrift.Proofs.Dump.Conservation

namespace SchemaDrift

open Dump (opening blocks tables tableOf tableName?)

/-- An identifier with each tick in it written twice. -/
def doubledTicks (n : Text) : Text := n.flatMap fun c => if c = Text.tick then [c, c] else [c]

/-- Whether a block declares a table under an identifier: it quotes the identifier, with its ticks doubled. -/
def DeclaresTable (b n : Text) : Prop := opening ++ quoteIdentifier (doubledTicks n) ++ (" (" : Text) <+: b

/-- An identifier up to its first tick. -/
def upToTick (n : Text) : Text := n.takeWhile (· ≠ Text.tick)

section Ticks

variable {n : Text}

theorem tick_notMem_upToTick (n : Text) : Text.tick ∉ upToTick n := by
  intro h
  simpa using List.all_eq_true.mp List.all_takeWhile _ h

theorem upToTick_subset (n : Text) : upToTick n ⊆ n := (List.takeWhile_prefix _).subset

theorem upToTick_eq_self_iff : upToTick n = n ↔ Text.tick ∉ n := by
  constructor
  · intro h
    rw [← h]
    exact tick_notMem_upToTick n
  · intro h
    have hall := Text.takeWhile_ne_append (s := []) h (by rintro d ⟨⟩)
    rwa [List.append_nil] at hall

theorem upToTick_eq_nil_iff : upToTick n = [] ↔ n = [] ∨ n.head? = some Text.tick := by
  cases n with
  | nil => simp [upToTick]
  | cons c n => by_cases hc : c = Text.tick <;> simp [upToTick, hc]

theorem doubledTicks_append (n m : Text) : doubledTicks (n ++ m) = doubledTicks n ++ doubledTicks m :=
  List.flatMap_append

theorem doubledTicks_of_notMem (h : Text.tick ∉ n) : doubledTicks n = n := by
  induction n with
  | nil => rfl
  | cons c n ih =>
    obtain ⟨hc, hn⟩ := List.ne_and_not_mem_of_not_mem_cons h
    rw [doubledTicks, List.flatMap_cons, if_neg (Ne.symm hc), ← doubledTicks, ih hn]
    rfl

/-- The first tick of an identifier stands twice behind the part in front of it. -/
theorem exists_doubledTicks_of_mem (h : Text.tick ∈ n) :
    ∃ rest, doubledTicks n = upToTick n ++ Text.tick :: Text.tick :: rest := by
  obtain ⟨front, rest, rfl, hfront⟩ := List.eq_append_cons_of_mem h
  have hup : upToTick (front ++ Text.tick :: rest) = front :=
    Text.takeWhile_ne_append hfront (Text.stopsAt_cons _ rest)
  refine ⟨doubledTicks rest, ?_⟩
  rw [hup, doubledTicks_append, doubledTicks_of_notMem hfront]
  rfl

end Ticks

section Names

variable {b d n : Text} {t : Table}

/-- A block has the name that its identifier has up to its first tick. -/
theorem DeclaresTable.tableName?_eq (h : DeclaresTable b n) (hn : '\n' ∉ n) :
    tableName? b = some (upToTick n) := by
  have hopening : Text.tick ∉ opening := by decide
  have hbreak : '\n' ∉ opening ++ upToTick n := by
    rw [List.mem_append, not_or]
    exact ⟨by decide, fun hmem => hn (upToTick_subset n hmem)⟩
  obtain ⟨more, rfl⟩ := h
  have hname (behind : Text) := Dump.tableName?_append hopening (tick_notMem_upToTick n) hbreak behind
  by_cases hmem : Text.tick ∈ n
  · obtain ⟨rest, hrest⟩ := exists_doubledTicks_of_mem hmem
    rw [← hname (Text.tick :: (rest ++ Text.tick :: (' ' :: '(' :: more))), quoteIdentifier, hrest]
    simp
  · have hself := upToTick_eq_self_iff.mpr hmem
    rw [← hname (' ' :: '(' :: more), quoteIdentifier, doubledTicks_of_notMem hmem, hself]
    simp

theorem exists_table_of_declaresTable (h : DeclaresTable b n) (hn : '\n' ∉ n) (hb : b ∈ blocks d) :
    ∃ t ∈ tables d, t.content = b ∧ t.name = upToTick n := by
  have htable : Dump.blockTable? b = some (tableOf (upToTick n) b) := by
    rw [Dump.blockTable?, h.tableName?_eq hn, Option.map_some]
  refine ⟨tableOf (upToTick n) b, ?_, Dump.content_tableOf _ b, ?_⟩
  · rw [Dump.tables_eq]
    exact List.mem_filterMap.mpr ⟨b, hb, htable⟩
  · rw [Dump.tableOf_eq]

theorem name_of_declaresTable (ht : t ∈ tables d) (h : DeclaresTable t.content n) (hn : '\n' ∉ n) :
    t.name = upToTick n := by
  obtain ⟨-, htable⟩ := Dump.isBlock_content ht
  rw [Dump.blockTable?, h.tableName?_eq hn, Option.map_some, Option.some.injEq] at htable
  rw [← htable, Dump.tableOf_eq]

end Names

section Identity

variable {b d e m n : Text} {t : Table}

/-- Whether a statement alters the table of an identifier, which it quotes with its ticks doubled. -/
def AltersTable (s n : Text) : Prop :=
  ("ALTER TABLE " : Text) ++ (quoteIdentifier (doubledTicks n) ++ (" " : Text)) <+: s

theorem quoteIdentifier_inj : quoteIdentifier n = quoteIdentifier m ↔ n = m := by
  simp [quoteIdentifier]

theorem upToTick_eq_doubledTicks_iff : upToTick n = doubledTicks n ↔ Text.tick ∉ n := by
  constructor
  · intro h hmem
    obtain ⟨rest, hrest⟩ := exists_doubledTicks_of_mem hmem
    apply tick_notMem_upToTick n
    rw [h, hrest]
    exact List.mem_append_right _ List.mem_cons_self
  · intro h
    rw [doubledTicks_of_notMem h, upToTick_eq_self_iff.mpr h]

theorem altersTable_iff (clauses : List Clause) :
    AltersTable (Change.alter (upToTick n) clauses).sql n ↔ Text.tick ∉ n := by
  obtain ⟨rest, hsql⟩ : ∃ rest, (Change.alter (upToTick n) clauses).sql =
      ("ALTER TABLE " : Text) ++ (quoteIdentifier (upToTick n) ++ ' ' :: rest) := by
    refine ⟨List.intercalate ", " (clauses.map Clause.sql) ++ (";\n\n" : Text), ?_⟩
    change ("ALTER TABLE " : Text) ++ quoteIdentifier (upToTick n) ++ (" " : Text) ++
      List.intercalate ", " (clauses.map Clause.sql) ++ (";\n\n" : Text) = _
    simp only [List.append_assoc]
    rfl
  rw [AltersTable, hsql, List.prefix_append_right_inj]
  constructor
  · intro h hmem
    -- behind the second tick a blank would have to stand, where the identifier has a third one
    obtain ⟨more, hmore⟩ := exists_doubledTicks_of_mem hmem
    rw [quoteIdentifier, quoteIdentifier, hmore] at h
    simp only [List.cons_append, List.append_assoc, List.cons_prefix_cons, true_and,
      List.prefix_append_right_inj] at h
    exact absurd (List.cons_prefix_cons.mp h).1 (by decide)
  · intro h
    rw [upToTick_eq_doubledTicks_iff.mpr h, List.prefix_append_right_inj]
    exact List.prefix_append _ _

/-- The table of a quoted identifier bears the part of it in front of its first tick. So its quoted name is
the quoted identifier, and a statement alters the table of that identifier, exactly if it has no tick. The
name is there unless a tick begins the identifier, and tables that share the part share the name. -/
theorem identity_kept_iff (hn : '\n' ∉ n) (hb : b ∈ blocks d) (hdeclares : DeclaresTable b n) :
    ∃ t ∈ tables d, t.content = b ∧ t.name = upToTick n ∧
      (quoteIdentifier t.name = quoteIdentifier (doubledTicks n) ↔ Text.tick ∉ n) ∧
      (∀ clauses, AltersTable (Change.alter t.name clauses).sql n ↔ Text.tick ∉ n) ∧
      (t.name ≠ [] ↔ n ≠ [] ∧ n.head? ≠ some Text.tick) ∧
      ∀ e m, ∀ u ∈ tables e, '\n' ∉ m → DeclaresTable u.content m →
        (u.name = t.name ↔ upToTick m = upToTick n) ∧
        (Text.tick ∉ m → Text.tick ∉ n → (u.name = t.name ↔ m = n)) := by
  obtain ⟨t, ht, hcontent, hname⟩ := exists_table_of_declaresTable hdeclares hn hb
  refine ⟨t, ht, hcontent, hname, ?_, fun clauses => ?_, ?_, fun e m u hu hm hdeclares' => ?_⟩
  · rw [hname, quoteIdentifier_inj, upToTick_eq_doubledTicks_iff]
  · rw [hname, altersTable_iff]
  · rw [hname, ne_eq, upToTick_eq_nil_iff, not_or]
  · rw [hname, name_of_declaresTable hu hdeclares' hm]
    refine ⟨Iff.rfl, fun hm' hn' => ?_⟩
    rw [upToTick_eq_self_iff.mpr hm', upToTick_eq_self_iff.mpr hn']

/-- An identifier without a tick that has blanks and an engine mark in it. -/
theorem identity_kept_marked :
    let b : Text := "CREATE TABLE `x ENGINE y` (\n  `a` int\n) ENGINE=A"
    '\n' ∉ ("x ENGINE y" : Text) ∧ b ∈ blocks b ∧ DeclaresTable b "x ENGINE y" ∧
      ∃ t ∈ tables b, t.content = b ∧ quoteIdentifier t.name = ("`x ENGINE y`" : Text) := by
  intro b
  have hn : '\n' ∉ ("x ENGINE y" : Text) := by decide
  have hb : b ∈ blocks b := by decide +kernel
  have hdeclares : DeclaresTable b "x ENGINE y" := by
    rw [DeclaresTable, ← List.isPrefixOf_iff_prefix]
    decide
  obtain ⟨t, ht, hcontent, -, hquoted, -⟩ := identity_kept_iff hn hb hdeclares
  exact ⟨hn, hb, hdeclares, t, ht, hcontent, hquoted.mpr (by decide)⟩

/-- The tables of two identifiers with ticks get one name, under which neither is altered and only one is
created, and an identifier that begins with a tick gets no name at all. -/
theorem name_of_ticked :
    let first : Text := "CREATE TABLE `a``b` (\n  `x` int\n) ENGINE=A"
    let widened : Text := "CREATE TABLE `a``b` (\n  `x` int,\n  `y` int\n) ENGINE=A"
    let second : Text := "CREATE TABLE `a``c` (\n  `z` int\n) ENGINE=A"
    let nameless : Text := "CREATE TABLE ```x` (\n  `a` int\n) ENGINE=A"
    (DeclaresTable first "a`b" ∧ DeclaresTable widened "a`b" ∧ DeclaresTable second "a`c" ∧
      DeclaresTable nameless "`x") ∧
    (¬ ∀ t ∈ tables first, quoteIdentifier t.name = quoteIdentifier (doubledTicks "a`b")) ∧
    migrationScript (tables first) (tables widened) = "ALTER TABLE `a` ADD `y` int;\n\n" ∧
    (tables (first ++ ';' :: second)).map Table.name = [("a" : Text), "a"] ∧
    migrationScript [] (tables (first ++ ';' :: second)) = second ++ ";\n\n" ∧
    (tables nameless).map Table.name = [[]] := by
  intro first widened second nameless
  have hname : (tables first).map Table.name = [("a" : Text)] := by decide +kernel
  refine ⟨?_, fun hquoted => ?_, by decide +kernel, by decide +kernel, by decide +kernel, by decide +kernel⟩
  · simp only [DeclaresTable, ← List.isPrefixOf_iff_prefix]
    decide
  · obtain ⟨t, ht, htname⟩ := List.mem_map.mp (hname ▸ List.mem_singleton_self ("a" : Text))
    have he := hquoted t ht
    rw [htname] at he
    exact absurd he (by decide)

end Identity

end SchemaDrift
