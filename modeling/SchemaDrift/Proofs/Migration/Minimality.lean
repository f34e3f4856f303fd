import SchemaDrift.Proofs.Migration.Alteration
import SchemaDrift.Proofs.Migration.FirstOccurrence

namespace SchemaDrift

section LeftOut

variable {α β : Type} {f : α → Option β} {a : α} {b : β} {xs ys zs : List α}

/-- A part of a list leaves out some element of it. -/
theorem exists_left_out (h : xs.Sublist ys) (hne : xs ≠ ys) :
    ∃ a front back, ys = front ++ a :: back ∧ xs.Sublist (front ++ back) := by
  induction h with
  | slnil => exact absurd rfl hne
  | @cons xs ys a h => exact ⟨a, [], ys, rfl, h⟩
  | cons_cons a h ih =>
    obtain ⟨b, front, back, rfl, hsub⟩ := ih fun he => hne (he ▸ rfl)
    exact ⟨b, a :: front, back, rfl, hsub.cons_cons a⟩

theorem notMem_filterMap_of_left_out (hn : ((xs ++ a :: ys).filterMap f).Nodup) (ha : f a = some b)
    (hzs : zs.Sublist (xs ++ ys)) : b ∉ zs.filterMap f := by
  rw [List.filterMap_append, List.filterMap_cons_some ha, List.nodup_middle, ← List.filterMap_append] at hn
  exact fun hb => (List.nodup_cons.mp hn).1 ((hzs.filterMap f).mem hb)

end LeftOut

section Missing

variable {o t r : Table} {cs : List Clause} {c : Clause} {kind : KeyKind} {n : Text}

theorem Clause.Needed.definition?_ne (hc : c.Needed o t) (hn : c.column? = some n) :
    o.definition? n ≠ t.definition? n := by
  intro he
  cases (columnClause?_eq_none_iff.mpr he).symm.trans (columnClause?_eq_some_iff.mpr ⟨hn, hc⟩)

/-- Where nothing is done about what a needed clause is about, the new side is missed. -/
theorem Altered.not_agrees (hr : Altered o t cs r) (hcs : ∀ b ∈ cs, b.Needed o t) (hc : c.Needed o t)
    (hcolumn : ∀ n, c.column? = some n → n ∉ cs.filterMap Clause.column?)
    (hadded : ∀ kind k, c.addedKey? kind = some k → k ∉ cs.filterMap (Clause.addedKey? kind))
    (hdropped : ∀ n, c.droppedName? = some n → n ∉ cs.filterMap Clause.droppedName?) :
    ¬ r.Agrees t := by
  intro hagrees
  have column {n : Text} (hn : c.column? = some n) : False := by
    apply hc.definition?_ne hn
    rw [← hagrees.definitions, hr.definitions, if_neg (hcolumn n hn)]
  cases c with
  | addColumn c => exact column rfl
  | dropColumn name => exact column rfl
  | modifyColumn c => exact column rfl
  | addKey kind k =>
    obtain ⟨hname, hnew, hold⟩ := hc
    have hspec := (hagrees.specs kind k.spec).mpr hnew
    rw [Table.specs, hr.keys, List.map_append, List.mem_append, List.mem_map, List.mem_map] at hspec
    rcases hspec with ⟨l, hl, hls⟩ | ⟨l, hl, hls⟩
    · exact hold (hls ▸ List.mem_map_of_mem (List.mem_of_mem_filter hl))
    · -- an added key is known by its spec, since its name is made of it
      obtain ⟨hlname, -⟩ := hcs _ (Clause.mem_filterMap_addedKey?.mp hl)
      have he : l = k := by
        cases l
        cases k
        simp_all
      exact hadded kind k (Clause.addedKey?_eq_some_iff.mpr rfl) (he ▸ hl)
  | dropKey name =>
    obtain ⟨kind, k, hk, hspec, rfl⟩ := hc
    refine hspec ((hagrees.specs kind k.spec).mp (List.mem_map_of_mem ?_))
    rw [hr.keys, List.mem_append, List.mem_filter]
    exact .inl ⟨hk, decide_eq_true (hdropped k.name rfl)⟩

end Missing

/-- The clauses of one statement by what they are about. -/
structure Arrangement where
  columns : List Clause
  added : KeyKind → List Key
  dropped : KeyKind → List Key

namespace Arrangement

def keyClauses (a : Arrangement) (kind : KeyKind) : List Clause :=
  (a.added kind).map (.addKey kind) ++ (a.dropped kind).map fun k => .dropKey k.name

def clauses (a : Arrangement) : List Clause :=
  a.columns ++ a.keyClauses .ordinary ++ a.keyClauses .unique

/-- Clauses about columns in ascending order, one added key for each spec that only the new table has, in
the order in which the specs first come there, and every old key whose spec the new table lacks, in its
old place. -/
structure Canonical (o t : Table) (a : Arrangement) : Prop where
  aboutColumns : ∀ c ∈ a.columns, c.column?.isSome
  ascending : (a.columns.filterMap Clause.column?).Pairwise (· < ·)
  added : ∀ kind spec, spec ∈ (a.added kind).map Key.spec ↔ spec ∈ t.specs kind ∧ spec ∉ o.specs kind
  inOrder : ∀ kind, ((a.added kind).map Key.spec).Pairwise fun s u =>
    (t.specs kind).idxOf s < (t.specs kind).idxOf u
  synthesized : ∀ kind, ∀ k ∈ a.added kind, ∃ l ∈ t.keysOf kind, l.spec = k.spec ∧ l.synthesizedName = k.name
  dropped : ∀ kind, a.dropped kind = (o.keysOf kind).filter (·.spec ∉ t.specs kind)

end Arrangement

section Order

variable {o t : Table} {kind : KeyKind}

theorem pairwise_idxOf_addedKeys (old new : List Key) : ((addedKeys old new).map Key.spec).Pairwise fun s u =>
    (new.map Key.spec).idxOf s < (new.map Key.spec).idxOf u := by
  rw [addedKeys, List.map_map, show Key.spec ∘ (fun spec => Key.mk (indexName spec) spec) = id from rfl,
    List.map_id, eraseDups_filter]
  exact (pairwise_idxOf_eraseDups _).filter _

theorem nodup_spec_addedKeys (old new : List Key) : ((addedKeys old new).map Key.spec).Nodup := by
  refine (pairwise_idxOf_addedKeys old new).imp ?_
  rintro s u hlt rfl
  exact Nat.lt_irrefl _ hlt

/-- The arrangement of the clauses between two tables. -/
def Arrangement.between (o t : Table) : Arrangement where
  columns := columnClauses o.columns t.columns
  added kind := addedKeys (o.keysOf kind) (t.keysOf kind)
  dropped kind := (o.keysOf kind).filter (!(t.specs kind).contains ·.spec)

theorem Arrangement.clauses_between (o t : Table) : (between o t).clauses = tableClauses o t := by
  have hkeys (kind : KeyKind) :
      (between o t).keyClauses kind = SchemaDrift.keyClauses kind (o.keysOf kind) (t.keysOf kind) := by
    rw [keyClauses_eq, Arrangement.keyClauses, between, droppedNames, List.map_map]
    rfl
  rw [Arrangement.clauses, hkeys, hkeys]
  rfl

theorem Arrangement.canonical_between (o t : Table) : (between o t).Canonical o t where
  aboutColumns c hc := (mem_columnClauses_iff.mp hc).1
  ascending := by
    rw [between, ← filterMap_column?_tableClauses]
    exact pairwise_column?_tableClauses
  added kind spec := by
    rw [List.mem_map]
    constructor
    · rintro ⟨k, hk, rfl⟩
      exact (mem_addedKeys.mp hk).2
    · intro h
      exact ⟨⟨indexName spec, spec⟩, mem_addedKeys.mpr ⟨rfl, h⟩, rfl⟩
  inOrder kind := pairwise_idxOf_addedKeys _ _
  synthesized kind k hk := by
    obtain ⟨hname, hspec, -⟩ := mem_addedKeys.mp hk
    obtain ⟨l, hl, hls⟩ := List.mem_map.mp hspec
    refine ⟨l, hl, hls, ?_⟩
    rw [Key.synthesizedName, hls, hname]
  dropped kind := by simp only [between, List.contains_eq_mem, decide_not]

end Order

section Minimal

variable {o t s : Table} {cs : List Clause}

/-- Without some of its clauses a statement does not bring the new table about. -/
theorem exists_alter?_agrees_iff (h : o.indexNames.Nodup) (hs : Altered o t [] s)
    (hcs : cs.Sublist (tableClauses o t)) :
    ∃ r, s.alter? cs = some r ∧ (r.Agrees t ↔ cs = tableClauses o t) := by
  obtain ⟨r, hrun, hr⟩ := exists_alter?_of_sublist h hs hcs
  refine ⟨r, hrun, ?_, ?_⟩
  · intro hagrees
    by_contra hne
    obtain ⟨c, front, back, he, hsub⟩ := exists_left_out hcs hne
    have hneeded : ∀ b ∈ tableClauses o t, b.Needed o t := fun b hb => mem_tableClauses_iff.mp hb
    have hc : c.Needed o t := hneeded c (he ▸ List.mem_append_right front List.mem_cons_self)
    refine hr.not_agrees (fun b hb => hneeded b (hcs.mem hb)) hc ?_ ?_ ?_ hagrees
    · intro n hn
      exact notMem_filterMap_of_left_out (he ▸ nodup_column?_tableClauses) hn hsub
    · intro kind k hk
      have hnodup : ((tableClauses o t).filterMap (Clause.addedKey? kind)).Nodup := by
        rw [filterMap_addedKey?_tableClauses]
        exact (nodup_spec_addedKeys _ _).of_map
      exact notMem_filterMap_of_left_out (he ▸ hnodup) hk hsub
    · intro n hn
      exact notMem_filterMap_of_left_out (he ▸ nodup_droppedName?_tableClauses h) hn hsub
  · rintro rfl
    exact hr.agrees h

/-- The clauses between two tables are in canonical order, with at most one clause for a column and at most
one added key of a kind for a spec. All of them together make the new table of the old one, and where
some are left out, be it a single one, the rest can be carried out and makes something else. -/
theorem tableClauses_canonical_minimal (o t : Table) (h : o.indexNames.Nodup) :
    (∃ a : Arrangement, a.Canonical o t ∧ tableClauses o t = a.clauses) ∧
    ((tableClauses o t).filterMap Clause.column?).Nodup ∧
    (∀ kind, (((tableClauses o t).filterMap (Clause.addedKey? kind)).map Key.spec).Nodup) ∧
    ∀ s ∈ [o, o.settled],
      (∀ cs, cs.Sublist (tableClauses o t) →
        ∃ r, s.alter? cs = some r ∧ (r.Agrees t ↔ cs = tableClauses o t)) ∧
      ∀ i < (tableClauses o t).length, ∃ r,
        s.alter? ((tableClauses o t).eraseIdx i) = some r ∧ ¬ r.Agrees t := by
  refine ⟨⟨.between o t, Arrangement.canonical_between o t, (Arrangement.clauses_between o t).symm⟩,
    nodup_column?_tableClauses, fun kind => ?_, fun s hs => ?_⟩
  · rw [filterMap_addedKey?_tableClauses]
    exact nodup_spec_addedKeys _ _
  · have hstart : Altered o t [] s := by
      rcases List.mem_pair.mp hs with rfl | rfl
      · exact .refl _ t
      · exact .settled o t
    refine ⟨fun cs hcs => exists_alter?_agrees_iff h hstart hcs, fun i hi => ?_⟩
    obtain ⟨r, hrun, hiff⟩ := exists_alter?_agrees_iff h hstart (List.eraseIdx_sublist (tableClauses o t) i)
    refine ⟨r, hrun, fun hagrees => ?_⟩
    have hlength := congrArg List.length (hiff.mp hagrees)
    rw [List.length_eraseIdx_of_lt hi] at hlength
    omega

/-- Columns and specs that come twice on both sides, two keys over one spec to drop, and a key that becomes
a unique one. -/
theorem tableClauses_minimal_repeated :
    let o : Table := {
      name := "t"
      columns := [⟨"b", "int"⟩, ⟨"a", "int"⟩, ⟨"b", "text"⟩, ⟨"c", "int"⟩]
      keys := [⟨"k", "`a`"⟩, ⟨"l", "`a`"⟩, ⟨"m", "`c`"⟩]
      uniqueKeys := [⟨"n", "`b`"⟩] }
    let t : Table := {
      name := "t"
      columns := [⟨"d", "int"⟩, ⟨"b", "text"⟩, ⟨"b", "blob"⟩, ⟨"a", "int"⟩, ⟨"d", "date"⟩]
      keys := [⟨"p", "`b`,`a`"⟩, ⟨"m", "`c`"⟩, ⟨"q", "`d`"⟩, ⟨"r", "`b`,`a`"⟩]
      uniqueKeys := [⟨"n", "`b`"⟩, ⟨"k", "`a`"⟩] }
    tableClauses o t =
      [.modifyColumn ⟨"b", "blob"⟩, .dropColumn "c", .addColumn ⟨"d", "date"⟩,
        .addKey .ordinary ⟨"b_a", "`b`,`a`"⟩, .addKey .ordinary ⟨"d", "`d`"⟩, .dropKey "k", .dropKey "l",
        .addKey .unique ⟨"a", "`a`"⟩] ∧
      o.indexNames.Nodup ∧
      ∀ i < (tableClauses o t).length, ∃ r,
        o.settled.alter? ((tableClauses o t).eraseIdx i) = some r ∧ ¬ r.Agrees t := by
  intro o t
  have h : o.indexNames.Nodup := by decide
  have hminimal := (tableClauses_canonical_minimal o t h).2.2.2 o.settled (by simp)
  exact ⟨by decide +kernel, h, hminimal.2⟩

end Minimal

end SchemaDrift
