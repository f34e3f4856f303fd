import SchemaDrift.Proofs.Dump.Conservation
import SchemaDrift.Proofs.Migration.Agreement
import SchemaDrift.Proofs.Text.LineEndings

namespace SchemaDrift

/-- A table whose content has a carriage return in front of every line feed. -/
def Table.withReturns (t : Table) : Table := { t with content := t.content.withReturns }

/-- Whether a change alters a table that is there. -/
def Change.alters : Change → Bool
  | .create _ => false
  | .alter .. => true

namespace Dump

section Blocks

variable {t body options rest b : Text}

theorem freeOfEndings_opening : Text.FreeOfEndings opening := by decide

theorem freeOfEndings_engine : Text.FreeOfEndings engine := by decide

/-- The first block, given by the parts that the scan takes the text apart into. -/
theorem nextBlock?_of_parts
    (hopening : Text.fromFirst? opening t = some (opening ++ (body ++ (options ++ rest))))
    (hengine : Text.fromFirst? engine (body ++ (options ++ rest)) = some (options ++ rest))
    (hrest : (options ++ rest).dropWhile (· ≠ ';') = rest) :
    nextBlock? t = some (opening ++ (body ++ options), rest) := by
  have hblock : opening ++ (body ++ (options ++ rest)) = opening ++ (body ++ options) ++ rest := by
    simp only [List.append_assoc]
  have htake : (opening ++ (body ++ (options ++ rest))).take
      ((opening ++ (body ++ (options ++ rest))).length - rest.length) = opening ++ (body ++ options) := by
    rw [hblock, List.length_append, Nat.add_sub_cancel, List.take_left]
  rw [nextBlock?, hopening]
  simp only [Option.bind_eq_bind, Option.bind_some, List.drop_left, hengine, hrest, htake]

/-- The first block is found at the same place, whichever way lines end. -/
theorem nextBlock?_withReturns (t : Text) :
    nextBlock? t.withReturns = (nextBlock? t).map (Prod.map Text.withReturns Text.withReturns) := by
  have hopening := Text.fromFirst?_withReturns (by decide) freeOfEndings_opening t
  cases hs : Text.fromFirst? opening t with
  | none =>
    rw [hs] at hopening
    simp only [nextBlock?, hopening, hs, Option.map_none, Option.bind_eq_bind, Option.bind_none]
  | some start =>
    obtain ⟨lead, rfl, -, ⟨u, rfl⟩⟩ := Text.fromFirst?_eq_some_iff.mp hs
    have hengine := Text.fromFirst?_withReturns (by decide) freeOfEndings_engine u
    have hstart (v : Text) : Text.withReturns (opening ++ v) = opening ++ v.withReturns := by
      rw [Text.withReturns_append, Text.withReturns_of_notMem freeOfEndings_opening.1]
    rw [hs, Option.map_some, hstart] at hopening
    cases ho : Text.fromFirst? engine u with
    | none =>
      rw [ho] at hengine
      simp only [nextBlock?, hopening, hs, hengine, ho, List.drop_left, Option.map_none,
        Option.bind_eq_bind, Option.bind_some, Option.bind_none]
    | some found =>
      obtain ⟨options, rest, rfl, hdrop, -⟩ := exists_semicolon_split found
      obtain ⟨body, rfl, -⟩ := Text.fromFirst?_eq_some_iff.mp ho
      have hdrop' : (Text.withReturns (options ++ rest)).dropWhile (· ≠ ';') =
          Text.withReturns ((options ++ rest).dropWhile (· ≠ ';')) :=
        Text.dropWhile_withReturns (by decide) (by decide) (options ++ rest)
      rw [Text.withReturns_append body, Text.withReturns_append options] at hopening
      rw [ho, Option.map_some, Text.withReturns_append body, Text.withReturns_append options] at hengine
      rw [hdrop, Text.withReturns_append options] at hdrop'
      rw [nextBlock?_of_parts hs ho hdrop, nextBlock?_of_parts hopening hengine hdrop']
      simp only [Option.map_some, Prod.map_apply, hstart, Text.withReturns_append]

/-- The blocks are the same ones, whichever way lines end. -/
theorem blocks_withReturns (t : Text) : blocks t.withReturns = (blocks t).map Text.withReturns := by
  fun_induction blocks t with
  | case1 t hn =>
    rw [List.map_nil, blocks_eq_nil_iff, nextBlock?_withReturns, hn, Option.map_none]
  | case2 t b rest hn _ ih =>
    have hn' : nextBlock? t.withReturns = some (b.withReturns, rest.withReturns) := by
      rw [nextBlock?_withReturns, hn]
      rfl
    rw [blocks_of_nextBlock? hn', ih, List.map_cons]

end Blocks

section Names

variable {line name : Text}

/-- A carriage return at the end of a line changes nothing of what is quoted in it. -/
theorem quotes_concat_return : Quotes (line ++ ['\r']) name ↔ Quotes line name := by
  constructor
  · rintro ⟨before, behind, hline, hbefore, hname⟩
    have hsplit : line ++ '\r' :: [] = (before ++ Text.tick :: name) ++ Text.tick :: behind := by
      rw [hline, List.append_assoc, List.cons_append]
    rcases Text.exists_of_append_cons_eq (by decide) hsplit with ⟨u, rfl⟩ | ⟨u, hu⟩
    · exact ⟨before, u, by rw [List.append_assoc, List.cons_append], hbefore, hname⟩
    · -- the second tick would stand behind the end of the line
      rw [hu] at hsplit
      simp at hsplit
  · rintro ⟨before, behind, rfl, hbefore, hname⟩
    exact ⟨before, behind ++ ['\r'], by simp, hbefore, hname⟩

theorem quotedName?_concat_return (line : Text) : quotedName? (line ++ ['\r']) = quotedName? line := by
  ext name
  exact quotedName?_eq_some_iff.trans (quotes_concat_return.trans quotedName?_eq_some_iff.symm)

theorem tableName?_withReturns (b : Text) : tableName? b.withReturns = tableName? b := by
  obtain ⟨front, last, hpieces⟩ :=
    (List.eq_nil_or_concat (b.splitOn '\n')).resolve_left (List.splitOn_ne_nil '\n' b)
  rw [List.concat_eq_append] at hpieces
  rw [tableName?, tableName?, Text.splitOn_withReturns, hpieces, Text.returned_concat,
    List.findSome?_append, List.findSome?_append, List.findSome?_map]
  simp only [Function.comp_def, quotedName?_concat_return]

end Names

section Readings

variable {b d : Text}

/-- A table keeps all but its content when lines end in another way. -/
theorem tableOf_withReturns (h : '\r' ∉ b) (name : Text) :
    tableOf name b.withReturns = (tableOf name b).withReturns := by
  rw [tableOf_eq, tableOf_eq, entries, entries, Text.lines_withReturns h]
  rfl

theorem skippedLines_withReturns (h : '\r' ∉ b) (name : Text) :
    skippedLines name b.withReturns = skippedLines name b := by
  rw [skippedLines, skippedLines, Text.lines_withReturns h]

theorem blockTable?_withReturns (h : '\r' ∉ b) :
    blockTable? b.withReturns = (blockTable? b).map Table.withReturns := by
  rw [blockTable?, blockTable?, tableName?_withReturns, Option.map_map]
  congr 1
  funext name
  exact tableOf_withReturns h name

theorem notices_readBlock_withReturns (h : '\r' ∉ b) (index : Nat) :
    (readBlock index b.withReturns).notices = (readBlock index b).notices := by
  rw [readBlock, readBlock, tableName?_withReturns]
  cases tableName? b with
  | none => rfl
  | some name => exact skippedLines_withReturns h name

theorem notices_readingsFrom_withReturns {bs : List Text} (h : ∀ b ∈ bs, '\r' ∉ b) (k : Nat) :
    (readingsFrom k (bs.map Text.withReturns)).flatMap Reading.notices =
      (readingsFrom k bs).flatMap Reading.notices := by
  induction bs generalizing k with
  | nil => rfl
  | cons b bs ih =>
    rw [List.map_cons, readingsFrom_cons, readingsFrom_cons, List.flatMap_cons, List.flatMap_cons,
      notices_readBlock_withReturns (h b List.mem_cons_self),
      ih fun b' hb' => h b' (List.mem_cons_of_mem b hb')]

theorem return_notMem_of_mem_blocks (h : '\r' ∉ d) (hb : b ∈ blocks d) : '\r' ∉ b :=
  fun hr => h ((infix_of_mem_blocks hb).subset hr)

theorem tables_withReturns (h : '\r' ∉ d) : tables d.withReturns = (tables d).map Table.withReturns := by
  rw [tables_eq, tables_eq, blocks_withReturns, List.filterMap_map, List.map_filterMap]
  apply List.filterMap_congr
  intro b hb
  exact blockTable?_withReturns (return_notMem_of_mem_blocks h hb)

theorem notices_withReturns (h : '\r' ∉ d) : (read d.withReturns).notices = (read d).notices := by
  rw [read_eq, read_eq, blocks_withReturns]
  exact notices_readingsFrom_withReturns (fun b hb => return_notMem_of_mem_blocks h hb) 0

end Readings

end Dump

section Migrations

variable {old new ts : List Table} {n : Text}

theorem lastTable?_map_withReturns (ts : List Table) (n : Text) :
    lastTable? (ts.map Table.withReturns) n = (lastTable? ts n).map Table.withReturns :=
  lastNamed?_map fun _ _ => rfl

/-- The contents of the old side have no part in a migration. -/
theorem Migration.between_map_withReturns (old new : List Table) :
    between (old.map Table.withReturns) new = between old new := by
  rw [between, between]
  congr 1
  funext n
  rw [lastTable?_map_withReturns]
  cases lastTable? old n <;> cases lastTable? new n <;> rfl

/-- The contents of the new side have no part in a change that alters a table. -/
theorem Migration.filter_alters_between_map_withReturns (old new : List Table) :
    (between old (new.map Table.withReturns)).filter Change.alters =
      (between old new).filter Change.alters := by
  have hnames : (new.map Table.withReturns).map Table.name = new.map Table.name := by
    rw [List.map_map]
    rfl
  have hchange (n : Text) :
      (change? (lastTable? old n) (lastTable? (new.map Table.withReturns) n)).filter Change.alters =
        (change? (lastTable? old n) (lastTable? new n)).filter Change.alters := by
    rw [lastTable?_map_withReturns]
    cases lastTable? old n <;> cases lastTable? new n <;> rfl
  rw [between, between, List.filter_filterMap, List.filter_filterMap, hnames]
  simp only [hchange]

theorem covers_map_withReturns (ts : List Table) : Covers ts (ts.map Table.withReturns) := by
  intro n hn
  have hn' : n ∈ ts.map Table.name := by rwa [List.map_map] at hn
  obtain ⟨t, ht⟩ := exists_lastNamed? hn'
  refine ⟨t, t.withReturns, ht, ?_, ⟨fun _ => rfl, fun _ _ => Iff.rfl⟩⟩
  rw [lastTable?_map_withReturns, lastTable?_eq, ht, Option.map_some]

end Migrations

namespace Dump

/-- Whether lines end in a line feed or in a carriage return and a line feed, a dump reads as the
same tables and the same notices; only the contents keep their line endings. So the two versions need
no migration to each other, and no alteration from or to another schema tells them apart. -/
theorem read_withReturns {d : Text} (h : '\r' ∉ d) :
    read d.withReturns =
      { tables := (tables d).map Table.withReturns, notices := (read d).notices } ∧
    migrationScript (tables d) (tables d.withReturns) = [] ∧
    migrationScript (tables d.withReturns) (tables d) = [] ∧
    (∀ old, (Migration.between old (tables d.withReturns)).filter Change.alters =
      (Migration.between old (tables d)).filter Change.alters) ∧
    (∀ new, Migration.between (tables d.withReturns) new = Migration.between (tables d) new) := by
  refine ⟨?_, ?_, ?_, fun old => ?_, fun new => ?_⟩
  · rw [← tables_withReturns h, ← notices_withReturns h]
    rfl
  · rw [tables_withReturns h]
    exact migrationScript_eq_nil_iff.mpr (covers_map_withReturns _)
  · rw [tables_withReturns h, migrationScript, Migration.between_map_withReturns, ← migrationScript]
    exact migrationScript_eq_nil_iff.mpr (.refl _)
  · rw [tables_withReturns h, Migration.filter_alters_between_map_withReturns]
  · rw [tables_withReturns h, Migration.between_map_withReturns]

/-- A table of a few lines, with a line that no table needs. -/
theorem read_withReturns_lines :
    let d : Text := "CREATE TABLE `t` (\n  `id` int,\n  CHECK (1),\n  KEY `k` (`id`)\n) ENGINE=x;\n"
    let t : Table := { name := "t", columns := [⟨"id", "int"⟩], keys := [⟨"k", "`id`"⟩], content :=
      "CREATE TABLE `t` (\n  `id` int,\n  CHECK (1),\n  KEY `k` (`id`)\n) ENGINE=x" }
    '\r' ∉ d ∧ read d = { tables := [t], notices := [.skippedLine "t" 3 "  CHECK (1),"] } ∧
      read d.withReturns = { read d with tables := [t.withReturns] } ∧
      migrationScript [t] [t.withReturns] = [] := by
  intro d t
  have hreturn : '\r' ∉ d := by decide
  have hread : read d = { tables := [t], notices := [.skippedLine "t" 3 "  CHECK (1),"] } := by
    decide +kernel
  have htables : tables d = [t] := congrArg Reading.tables hread
  obtain ⟨hreads, hscript, -⟩ := read_withReturns hreturn
  refine ⟨hreturn, hread, ?_, ?_⟩
  · rw [hreads, htables]
    rfl
  · have htables' : tables d.withReturns = [t.withReturns] := by rw [tables, hreads, htables]; rfl
    rwa [htables, htables'] at hscript

end Dump

end SchemaDrift
