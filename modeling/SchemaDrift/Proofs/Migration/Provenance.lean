import SchemaDrift.Proofs.Dump.Origins
import SchemaDrift.Proofs.Migration.Clauses
import SchemaDrift.Proofs.Migration.Reread
import SchemaDrift.Proofs.Table.IndexName

namespace SchemaDrift

open Dump

/-- Whether texts stand together in one line of a block. -/
def OnOneLine (block : Text) (parts : List Text) : Prop :=
  ∃ line ∈ block.lines, ∀ p ∈ parts, p <:+: line

/-- The line that alters a table. -/
def alterLine (name : Text) (clauses : List Clause) : Text :=
  "ALTER TABLE " ++ quoteIdentifier name ++ " " ++ List.intercalate ", " (clauses.map Clause.sql) ++ ";"

namespace Clause

/-- The texts that the wording of a clause is made from. -/
def parts : Clause → List Text
  | .addColumn c => [c.name, c.definition]
  | .dropColumn name => [name]
  | .modifyColumn c => [c.name, c.definition]
  | .addKey _ k => [k.name, k.spec]
  | .dropKey name => [name]

/-- Where the parts of a clause come from. What is added or modified stands in a line of the new table's
block, where a name for an index is made of its spec, and what is dropped in a line of the old one's. -/
def From (o t : Table) : Clause → Prop
  | .addColumn c => c.definition ≠ [] ∧ OnOneLine t.content [c.name, c.definition]
  | .dropColumn name => OnOneLine o.content [name]
  | .modifyColumn c => c.definition ≠ [] ∧ OnOneLine t.content [c.name, c.definition]
  | .addKey _ k => k.name = indexName k.spec ∧ OnOneLine t.content [k.spec]
  | .dropKey name => OnOneLine o.content [name]

end Clause

/-- A statement that creates a table: a piece of the new text that is a block by itself, with a semicolon
and a blank line. -/
structure Creates (new : Text) (t : Table) (s : Text) : Prop where
  statement : s = t.content ++ ";\n\n"
  latest : lastTable? (tables new) t.name = some t
  piece : t.content <:+: new
  block : IsBlock t.content
  name : Text.tick ∉ t.name ∧ '\n' ∉ t.name

/-- A statement that alters a table: one line with a blank line behind it, made of what stands in lines of
the blocks that the two texts have for the table. -/
structure Alters (old new : Text) (o t : Table) (clauses : List Clause) (s : Text) : Prop where
  statement : s = alterLine t.name clauses ++ "\n\n"
  oneLine : '\n' ∉ alterLine t.name clauses
  latest : lastTable? (tables old) t.name = some o ∧ lastTable? (tables new) t.name = some t
  blocks : o.content ∈ blocks old ∧ t.content ∈ blocks new
  name : Text.tick ∉ t.name ∧ '\n' ∉ t.name
  clauses : ∀ c ∈ clauses, c.From o t

section Parts

variable {old new block : Text} {o t : Table} {c : Clause} {parts : List Text}

theorem OnOneLine.break_notMem (h : OnOneLine block parts) {p : Text} (hp : p ∈ parts) : '\n' ∉ p := by
  obtain ⟨line, hline, hparts⟩ := h
  exact fun hmem => Text.break_notMem_of_mem_lines hline ((hparts p hp).subset hmem)

theorem onOneLine_column {d : Text} {c : Column} (h : t ∈ tables d) (hc : c ∈ t.columns) :
    c.definition ≠ [] ∧ OnOneLine t.content [c.name, c.definition] := by
  obtain ⟨line, hline, hread⟩ := exists_line_of_mem_columns h hc
  obtain ⟨hne, hname, hdefinition⟩ := infix_of_read_column hread
  exact ⟨hne, line, hline, by simp [hname, hdefinition]⟩

theorem onOneLine_key {d : Text} {kind : KeyKind} {k : Key} (h : t ∈ tables d) (hk : k ∈ t.keysOf kind) :
    OnOneLine t.content [k.name, k.spec] := by
  obtain ⟨line, hline, hread⟩ := exists_line_of_mem_keysOf h hk
  obtain ⟨hname, hspec⟩ := infix_of_read_key hread
  exact ⟨line, hline, by simp [hname, hspec]⟩

theorem OnOneLine.subset {fewer : List Text} (h : OnOneLine block parts) (hs : ∀ p ∈ fewer, p ∈ parts) :
    OnOneLine block fewer := by
  obtain ⟨line, hline, hparts⟩ := h
  exact ⟨line, hline, fun p hp => hparts p (hs p hp)⟩

theorem Clause.Needed.from (hc : c.Needed o t) (ho : o ∈ tables old) (ht : t ∈ tables new) :
    c.From o t := by
  cases c with
  | addColumn c => exact onOneLine_column ht (mem_of_lastNamed? hc.2)
  | dropColumn name =>
    obtain ⟨⟨c, hlast⟩, -⟩ := hc
    obtain ⟨-, hline⟩ := onOneLine_column ho (mem_of_lastNamed? hlast)
    rw [show c.name = name from name_of_lastNamed? hlast] at hline
    exact hline.subset (by simp)
  | modifyColumn c => exact onOneLine_column ht (mem_of_lastNamed? hc.2)
  | addKey kind k =>
    obtain ⟨hname, hspec, -⟩ := hc
    obtain ⟨l, hl, hls⟩ := List.mem_map.mp hspec
    exact ⟨hname, (onOneLine_key ht hl).subset (by simp [hls])⟩
  | dropKey name =>
    obtain ⟨kind, k, hk, -, rfl⟩ := hc
    exact (onOneLine_key ho hk).subset (by simp)

end Parts

section Wording

variable {o t : Table} {c : Clause} {clauses : List Clause} {name : Text}

theorem Clause.From.break_notMem (h : c.From o t) {p : Text} (hp : p ∈ c.parts) : '\n' ∉ p := by
  cases c with
  | addColumn c => exact h.2.break_notMem hp
  | dropColumn name => exact OnOneLine.break_notMem h hp
  | modifyColumn c => exact h.2.break_notMem hp
  | addKey kind k =>
    obtain ⟨hname, hline⟩ := h
    have hspec : '\n' ∉ k.spec := hline.break_notMem (List.mem_singleton_self _)
    rcases List.mem_pair.mp hp with rfl | rfl
    · rw [hname]
      intro hmem
      exact (mem_of_mem_indexName hmem).elim (by decide) fun h => hspec h.1
    · exact hspec
  | dropKey name => exact OnOneLine.break_notMem h hp

theorem break_notMem_append {a b : Text} (ha : '\n' ∉ a) (hb : '\n' ∉ b) : '\n' ∉ a ++ b := by
  simp only [List.mem_append, ha, hb, or_self, not_false_eq_true]

theorem break_notMem_quoteIdentifier (h : '\n' ∉ name) : '\n' ∉ quoteIdentifier name := by
  have htick : '\n' ≠ Text.tick := by decide
  simp [quoteIdentifier, htick, h]

/-- The wording of a clause has no line feed of its own. -/
theorem break_notMem_sql (h : ∀ p ∈ c.parts, '\n' ∉ p) : '\n' ∉ c.sql := by
  have hcolumn (verb : Text) (hverb : '\n' ∉ verb) {c : Column} (hc : ∀ p ∈ [c.name, c.definition], '\n' ∉ p) :
      '\n' ∉ verb ++ quoteIdentifier c.name ++ " " ++ c.definition := by
    have hname := break_notMem_quoteIdentifier (hc c.name (by simp))
    exact break_notMem_append (break_notMem_append (break_notMem_append hverb hname) (by decide)) (hc _ (by simp))
  have hkey (verb : Text) (hverb : '\n' ∉ verb) {k : Key} (hk : ∀ p ∈ [k.name, k.spec], '\n' ∉ p) :
      '\n' ∉ verb ++ quoteIdentifier k.name ++ " (" ++ k.spec ++ ")" := by
    have hname := break_notMem_quoteIdentifier (hk k.name (by simp))
    have hspec := break_notMem_append (break_notMem_append hverb hname) (by decide : '\n' ∉ (" (" : Text))
    exact break_notMem_append (break_notMem_append hspec (hk _ (by simp))) (by decide)
  cases c with
  | addColumn c => exact hcolumn "ADD " (by decide) h
  | dropColumn name =>
    have hname := break_notMem_quoteIdentifier (h name (List.mem_singleton_self name))
    change '\n' ∉ ("DROP " : Text) ++ quoteIdentifier name
    exact break_notMem_append (by decide) hname
  | modifyColumn c => exact hcolumn "MODIFY " (by decide) h
  | addKey kind k =>
    cases kind with
    | ordinary => exact hkey "ADD INDEX " (by decide) h
    | unique => exact hkey "ADD UNIQUE INDEX " (by decide) h
  | dropKey name =>
    have hname := break_notMem_quoteIdentifier (h name (List.mem_singleton_self name))
    change '\n' ∉ ("DROP INDEX " : Text) ++ quoteIdentifier name
    exact break_notMem_append (by decide) hname

theorem break_notMem_alterLine (hname : '\n' ∉ name) (h : ∀ c ∈ clauses, '\n' ∉ c.sql) :
    '\n' ∉ alterLine name clauses := by
  have hstart : '\n' ∉ ("ALTER TABLE " : Text) ++ quoteIdentifier name ++ " " :=
    break_notMem_append (break_notMem_append (by decide) (break_notMem_quoteIdentifier hname)) (by decide)
  refine break_notMem_append (break_notMem_append hstart fun hmem => ?_) (by decide)
  rcases Text.mem_of_mem_intercalate hmem with hmem | ⟨sql, hsql, hmem⟩
  · exact absurd hmem (by decide)
  · obtain ⟨c, hc, rfl⟩ := List.mem_map.mp hsql
    exact h c hc hmem

theorem sql_alter (name : Text) (clauses : List Clause) :
    (Change.alter name clauses).sql = alterLine name clauses ++ ("\n\n" : Text) := by
  let front : Text :=
    "ALTER TABLE " ++ quoteIdentifier name ++ " " ++ List.intercalate ", " (clauses.map Clause.sql)
  calc (Change.alter name clauses).sql
    _ = front ++ ((";" : Text) ++ ("\n\n" : Text)) := rfl
    _ = front ++ (";" : Text) ++ ("\n\n" : Text) := (List.append_assoc _ _ _).symm

end Wording

section Statements

variable {old new : Text} {o t : Table} {clauses : List Clause}

theorem creates_of_lastTable? (h : lastTable? (tables new) t.name = some t) :
    Creates new t (Change.create t).sql := by
  have ht : t ∈ tables new := mem_of_lastNamed? h
  exact ⟨rfl, h, infix_of_mem_blocks (content_mem_blocks ht), (isBlock_content ht).1, name_of_mem_tables ht⟩

theorem alters_of_lastTable? (ho : lastTable? (tables old) t.name = some o)
    (ht : lastTable? (tables new) t.name = some t) :
    Alters old new o t (tableClauses o t) (Change.alter t.name (tableClauses o t)).sql := by
  have hold : o ∈ tables old := mem_of_lastNamed? ho
  have hnew : t ∈ tables new := mem_of_lastNamed? ht
  have hname := name_of_mem_tables hnew
  have hfrom : ∀ c ∈ tableClauses o t, c.From o t :=
    fun c hc => (mem_tableClauses_iff.mp hc).from hold hnew
  have hline := break_notMem_alterLine hname.2 fun c hc => break_notMem_sql fun p => (hfrom c hc).break_notMem
  exact ⟨sql_alter _ _, hline, ⟨ho, ht⟩, ⟨content_mem_blocks hold, content_mem_blocks hnew⟩, hname, hfrom⟩

/-- A script is nothing but statements that create a table each from its own block, and lines that alter
one each with what stands in its blocks. -/
theorem migrationScript_statements (old new : Text) :
    ∃ statements : List Text, migrationScript (tables old) (tables new) = statements.flatten ∧
      ∀ s ∈ statements, (∃ t, Creates new t s) ∨ ∃ o t clauses, Alters old new o t clauses s := by
  refine ⟨(Migration.between (tables old) (tables new)).map Change.sql, List.flatMap_def, fun s hs => ?_⟩
  obtain ⟨c, hc, rfl⟩ := List.mem_map.mp hs
  obtain ⟨name, -, hchange⟩ := List.mem_filterMap.mp hc
  rcases change?_eq_some hchange with ⟨t, -, ht, rfl⟩ | ⟨o, t, ho, ht, rfl⟩
  · obtain rfl : t.name = name := name_of_lastNamed? ht
    exact .inl ⟨t, creates_of_lastTable? ht⟩
  · obtain rfl : t.name = name := name_of_lastNamed? ht
    exact .inr ⟨o, t, _, alters_of_lastTable? ho ht⟩

/-- A word that follows an opening at once is no engine mark of the block, for the blank in front of it
belongs to the opening. So the statement of such a block has a semicolon behind the first place where a
blank and that word stand, and it cannot be read as other statements either. -/
theorem migrationScript_first_mark :
    let new : Text := "CREATE TABLE ENGINE; `x` (\n  `a` int\n) ENGINE=x;"
    ¬ ∃ statements : List Text, migrationScript (tables []) (tables new) = statements.flatten ∧
      ∀ s ∈ statements, ("ALTER TABLE " : Text) <+: s ∨ ∃ piece, s = piece ++ ";\n\n" ∧ opening <+: piece ∧
        ∃ options, Text.fromFirst? engine piece = some options ∧ ';' ∉ options := by
  intro new
  let script : Text := new ++ ("\n\n" : Text)
  let behind : Text := " ENGINE; `x` (\n  `a` int\n) ENGINE=x"
  have hscript : migrationScript (tables []) (tables new) = script := by decide +kernel
  rw [hscript]
  rintro ⟨statements, hflat, hall⟩
  cases statements with
  | nil => exact absurd hflat (by decide)
  | cons s rest =>
    have hs : s <+: script := ⟨rest.flatten, hflat.symm⟩
    rcases hall s List.mem_cons_self with halter | ⟨piece, rfl, -, options, hoptions, hsemi⟩
    · exact absurd (halter.trans hs) (by decide)
    · -- of the starts of the script only the whole block has a semicolon and a blank line behind it
      have hfound : ∀ n ≤ script.length, (script.take n ++ (";\n\n" : Text)).isPrefixOf script →
          Text.fromFirst? engine (script.take n) = some behind := by
        decide +kernel
      have hpiece : piece <+: script := (List.prefix_append piece _).trans hs
      rw [List.prefix_iff_eq_take.mp hpiece] at hs hoptions
      rw [hfound piece.length hpiece.length_le (List.isPrefixOf_iff_prefix.mpr hs)] at hoptions
      cases hoptions
      exact absurd hsemi (by decide)

end Statements

end SchemaDrift
