import SchemaDrift.Dump.Reading
import SchemaDrift.Proofs.Dump.Scan
import SchemaDrift.Proofs.Table.Additions

namespace SchemaDrift.Dump

/-- The table of a block, if the block has a name. -/
def blockTable? (b : Text) : Option Table := (tableName? b).map fun name => tableOf name b

theorem tables_readBlock (index : Nat) (b : Text) :
    (readBlock index b).tables = (blockTable? b).toList := by
  rw [readBlock, blockTable?]
  cases tableName? b <;> rfl

/-- What is read from blocks of which the first has index `k`, one by one. -/
def readingsFrom (k : Nat) (bs : List Text) : List Reading :=
  (bs.zipIdx k).map fun p => readBlock p.2 p.1

theorem readingsFrom_cons (k : Nat) (b : Text) (bs : List Text) :
    readingsFrom k (b :: bs) = readBlock k b :: readingsFrom (k + 1) bs := rfl

theorem read_eq (t : Text) :
    read t = {
      tables := (readingsFrom 0 (blocks t)).flatMap Reading.tables
      notices := (readingsFrom 0 (blocks t)).flatMap Reading.notices } := rfl

theorem tables_readingsFrom (k : Nat) (bs : List Text) :
    (readingsFrom k bs).flatMap Reading.tables = bs.filterMap blockTable? := by
  induction bs generalizing k with
  | nil => rfl
  | cons b bs ih =>
    rw [readingsFrom_cons, List.flatMap_cons, ih, tables_readBlock, List.filterMap_cons]
    cases blockTable? b <;> rfl

/-- The tables of a dump are those of its blocks, one by one. -/
theorem tables_eq (t : Text) : tables t = (blocks t).filterMap blockTable? :=
  tables_readingsFrom 0 (blocks t)

namespace Line

def column? (l : Line) : Option Column := l.step?.bind BuildStep.column?

def primary? (l : Line) : Option Text := l.step?.bind BuildStep.primary?

def key? (kind : KeyKind) (l : Line) : Option Key := l.step?.bind (BuildStep.key? kind)

end Line

/-- What a block is read as, line by line. -/
def entries (block : Text) : List Line := block.lines.map Line.read

section Content

/-- A table has the declarations of its block, each sort in the order of the lines. -/
theorem tableOf_eq (name block : Text) :
    tableOf name block = {
      name
      columns := putColumns [] ((entries block).filterMap Line.column?)
      primary := (entries block).filterMap Line.primary?
      keys := (entries block).filterMap (Line.key? .ordinary)
      uniqueKeys := (entries block).filterMap (Line.key? .unique)
      content := block } := by
  have hnone (l : Line) : l.step?.bind BuildStep.content? = none := by cases l <;> rfl
  have hsteps {α : Type} (f : BuildStep → Option α) :
      (block.lines.filterMap fun line => (Line.read line).step?).filterMap f =
        (entries block).filterMap fun l => l.step?.bind f := by
    rw [List.filterMap_filterMap, entries, List.filterMap_map]
    rfl
  have hcontent : (block.lines.filterMap fun line => (Line.read line).step?).filterMap
      BuildStep.content? = [] := by
    simp only [hsteps, hnone, List.filterMap_none]
  rw [tableOf, Table.build_content name block hcontent, hsteps, hsteps, hsteps, hsteps]
  rfl

@[simp] theorem content_tableOf (name b : Text) : (tableOf name b).content = b := by rw [tableOf_eq]

theorem content_of_blockTable? {b : Text} {t : Table} (h : blockTable? b = some t) :
    t.content = b := by
  obtain ⟨name, -, rfl⟩ := Option.map_eq_some_iff.mp h
  exact content_tableOf name b

/-- The contents of the tables are the blocks with a name. -/
theorem content_tables (d : Text) :
    (tables d).map Table.content = (blocks d).filter fun b => (tableName? b).isSome := by
  have hcontent : ∀ b ∈ blocks d, (blockTable? b).map Table.content =
      Option.guard (fun b => (tableName? b).isSome) b := by
    intro b _
    cases hname : tableName? b <;> simp [blockTable?, hname, Option.guard]
  rw [tables_eq, List.map_filterMap, List.filterMap_congr hcontent, List.filterMap_eq_filter]

/-- The content of a table that was read is a block, and the block of that very table. -/
theorem isBlock_content {d : Text} {t : Table} (h : t ∈ tables d) :
    IsBlock t.content ∧ blockTable? t.content = some t := by
  rw [tables_eq] at h
  obtain ⟨b, hb, ht⟩ := List.mem_filterMap.mp h
  rw [content_of_blockTable? ht]
  exact ⟨isBlock_of_mem_blocks hb, ht⟩

end Content

section Tables

variable {lead s b rest : Text} {t : Table}

theorem tables_append_of_clear (h : Text.Clear opening lead s) : tables (lead ++ s) = tables s := by
  rw [tables_eq, tables_eq, blocks_append_of_clear h]

theorem tables_block_append (hb : IsBlock b) (ht : blockTable? b = some t) (hr : Ends rest) :
    tables (b ++ rest) = t :: tables rest := by
  rw [tables_eq, tables_eq, blocks_block_append hb hr, List.filterMap_cons_some ht]

theorem tables_nil : tables [] = [] := by
  rw [tables_eq, blocks_eq_nil (by decide)]
  rfl

end Tables

end SchemaDrift.Dump
