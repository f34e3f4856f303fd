import SchemaDrift.Proofs.Migration.Clauses
import SchemaDrift.Proofs.Migration.Effect
import Mathlib.Data.List.Induction

namespace SchemaDrift

section Columns

variable {o t s : Table} {d : Column} {c : Clause} {n m : Text}

theorem definition?_addColumn :
    (Clause.effect s (.addColumn d)).definition? m =
      if m = d.name then some d.definition else s.definition? m := by
  rw [Table.definition?, Clause.effect, lastColumn?_eq, lastNamed?_concat]
  by_cases h : m = d.name
  · rw [if_pos h.symm, if_pos h, Option.map_some]
  · rw [if_neg (Ne.symm h), if_neg h]
    rfl

theorem definition?_dropColumn :
    (Clause.effect s (.dropColumn n)).definition? m =
      if m = n then none else s.definition? m := by
  rw [Table.definition?, Clause.effect, lastColumn?_eq, lastNamed?_filter_ne]
  split <;> rfl

theorem definition?_modifyColumn (h : d.name ∈ s.columns.map Column.name) :
    (Clause.effect s (.modifyColumn d)).definition? m =
      if m = d.name then some d.definition else s.definition? m := by
  have hkeep : ∀ e ∈ s.columns, (if e.name = d.name then d else e).name = e.name := by
    intro e _
    split
    next he => exact he.symm
    next => rfl
  rw [Table.definition?, Clause.effect, lastColumn?_eq, lastNamed?_map hkeep]
  split
  next hm =>
    subst hm
    obtain ⟨e, he⟩ := exists_lastNamed? h
    rw [he, Option.map_some, if_pos (name_of_lastNamed? he)]
    rfl
  next hm =>
    rw [Table.definition?, lastColumn?_eq, Option.map_map]
    apply Option.map_congr
    intro e he
    rw [Function.comp_apply, if_neg fun hd => hm ((name_of_lastNamed? he).symm.trans hd)]

/-- The clause for a column can be carried out, gives that column the new side's definition and
leaves the rest of the table alone. -/
theorem columnClause_step (hc : c.Needed o t) (hn : c.column? = some n)
    (hs : s.definition? n = o.definition? n) :
    c.Fits s ∧ (∃ columns, c.effect s = { s with columns }) ∧
      ∀ m, (c.effect s).definition? m = if m = n then t.definition? n else s.definition? m := by
  have hmem {b : Column} (ho : lastColumn? o.columns n = some b) : n ∈ s.columns.map Column.name := by
    by_contra hnot
    rw [← Table.definition?_eq_none_iff, hs, Table.definition?, ho] at hnot
    cases hnot
  have hnew {x : Option Column} (ht : lastColumn? t.columns n = x) :
      t.definition? n = x.map Column.definition := by rw [Table.definition?, ht]
  cases c with
  | addColumn c =>
    cases hn
    obtain ⟨ho, ht⟩ := hc
    refine ⟨?_, ⟨_, rfl⟩, fun m => ?_⟩
    · refine Table.definition?_eq_none_iff.mp (hs.trans ?_)
      rw [Table.definition?, ho, Option.map_none]
    · rw [definition?_addColumn, hnew ht, Option.map_some]
  | dropColumn name =>
    cases hn
    obtain ⟨⟨b, ho⟩, ht⟩ := hc
    refine ⟨hmem ho, ⟨_, rfl⟩, fun m => ?_⟩
    rw [definition?_dropColumn, hnew ht, Option.map_none]
  | modifyColumn c =>
    cases hn
    obtain ⟨⟨b, ho, -⟩, ht⟩ := hc
    refine ⟨hmem ho, ⟨_, rfl⟩, fun m => ?_⟩
    rw [definition?_modifyColumn (hmem ho), hnew ht, Option.map_some]
  | addKey kind k => cases hn
  | dropKey name => cases hn

end Columns

section Keys

variable {o t s : Table} {kind : KeyKind} {k : Key} {n : Text}

theorem keysOf_addKey (kind' : KeyKind) : (Clause.effect s (.addKey kind k)).keysOf kind' =
    s.keysOf kind' ++ [Clause.addKey kind k].filterMap (Clause.addedKey? kind') := by
  cases kind <;> cases kind' <;> simp [Clause.effect, Clause.addedKey?, Table.add, Table.keysOf]

theorem keysOf_dropKey (kind : KeyKind) :
    (Clause.effect s (.dropKey n)).keysOf kind = (s.keysOf kind).filter (·.name ≠ n) := by
  cases kind <;> rfl

theorem indexNames_eq (s : Table) :
    s.indexNames = (s.keysOf .ordinary).map Key.name ++ (s.keysOf .unique).map Key.name := by
  simp [Table.indexNames, Table.indexes, Table.keysOf, Function.comp_def]

theorem mem_indexNames_of_mem (hk : k ∈ s.keysOf kind) : k.name ∈ s.indexNames := by
  rw [indexNames_eq, List.mem_append]
  cases kind
  · exact .inl (List.mem_map_of_mem hk)
  · exact .inr (List.mem_map_of_mem hk)

/-- Where no two indexes share a name, a name tells the index and its kind. -/
theorem index_of_name (h : o.indexNames.Nodup) {kind' : KeyKind} {k' : Key} (hk : k ∈ o.keysOf kind)
    (hk' : k' ∈ o.keysOf kind') (hname : k.name = k'.name) : kind = kind' ∧ k = k' := by
  have he : (kind, k) = (kind', k') :=
    List.inj_on_of_nodup_map h (Table.mem_indexes.mpr hk) (Table.mem_indexes.mpr hk') hname
  exact Prod.mk.inj he

end Keys

section Run

variable {o t s : Table} {cs : List Clause} {c : Clause} {kind : KeyKind} {k : Key} {n : Text}

/-- What a table comes to by some of the clauses that are needed: the columns they are about are those of
the new table, the keys they drop are gone, and the keys they add stand behind the others. -/
structure Altered (o t : Table) (cs : List Clause) (s : Table) : Prop where
  name : s.name = o.name
  definitions : ∀ n,
    s.definition? n = if n ∈ cs.filterMap Clause.column? then t.definition? n else o.definition? n
  keys : ∀ kind, s.keysOf kind =
    (o.keysOf kind).filter (·.name ∉ cs.filterMap Clause.droppedName?) ++
      cs.filterMap (Clause.addedKey? kind)

/-- Clauses that can be carried out one behind the other: each is needed, no two are about one column or
drop one index, and the drops go first. -/
structure InOrder (o t : Table) (cs : List Clause) : Prop where
  needed : ∀ c ∈ cs, c.Needed o t
  columns : (cs.filterMap Clause.column?).Nodup
  drops : (cs.filterMap Clause.droppedName?).Nodup
  dropsFirst : cs.Pairwise fun b c => c.dropsIndex → b.dropsIndex

theorem Altered.refl (o t : Table) : Altered o t [] o :=
  ⟨rfl, fun n => by simp, fun kind => by simp⟩

theorem Altered.settled (o t : Table) : Altered o t [] o.settled :=
  ⟨rfl, fun n => by simp, fun kind => by cases kind <;> simp [Table.settled, Table.keysOf]⟩

theorem Altered.column_step (h : Altered o t cs s) (hc : c.Needed o t) (hn : c.column? = some n)
    (hnew : n ∉ cs.filterMap Clause.column?) : c.Fits s ∧ Altered o t (cs ++ [c]) (c.effect s) := by
  have hs : s.definition? n = o.definition? n := by rw [h.definitions, if_neg hnew]
  obtain ⟨hfits, ⟨columns, heffect⟩, hdefinition⟩ := columnClause_step hc hn hs
  have hsome : c.column?.isSome := Option.isSome_of_eq_some hn
  have hdropped : c.droppedName? = none := Clause.droppedName?_eq_none hsome
  have hadded (kind : KeyKind) : c.addedKey? kind = none := Clause.addedKey?_eq_none hsome
  refine ⟨hfits, ?_, fun m => ?_, fun kind => ?_⟩
  · rw [heffect]
    exact h.name
  · rw [hdefinition, h.definitions]
    by_cases hm : m = n
    · subst hm
      simp [List.filterMap_append, hn]
    · simp [List.filterMap_append, hn, hm]
  · have hkeys : (c.effect s).keysOf kind = s.keysOf kind := by
      rw [heffect]
      cases kind <;> rfl
    rw [hkeys, h.keys]
    simp [List.filterMap_append, hdropped, hadded]

theorem Altered.addKey_step (h : Altered o t cs s) (kind : KeyKind) (k : Key) :
    Altered o t (cs ++ [.addKey kind k]) (Clause.effect s (.addKey kind k)) := by
  refine ⟨?_, fun m => ?_, fun kind' => ?_⟩
  · cases kind <;> exact h.name
  · have hdefinition : (Clause.effect s (.addKey kind k)).definition? m = s.definition? m := by
      cases kind <;> rfl
    rw [hdefinition, h.definitions]
    simp [List.filterMap_append, Clause.column?]
  · rw [keysOf_addKey, h.keys]
    simp [List.filterMap_append, Clause.droppedName?]

/-- Before any index is added the names are those of the old indexes that are not dropped. -/
theorem Altered.indexNames_eq_filter (h : Altered o t cs s)
    (hadded : ∀ kind, cs.filterMap (Clause.addedKey? kind) = []) :
    s.indexNames = o.indexNames.filter (· ∉ cs.filterMap Clause.droppedName?) := by
  rw [indexNames_eq, indexNames_eq, h.keys, h.keys, hadded, hadded, List.append_nil, List.append_nil,
    List.filter_append, List.filter_map, List.filter_map]
  rfl

theorem Altered.dropKey_step (h : Altered o t cs s) (ho : o.indexNames.Nodup)
    (hc : (Clause.dropKey n).Needed o t) (hnew : n ∉ cs.filterMap Clause.droppedName?)
    (hadded : ∀ kind, cs.filterMap (Clause.addedKey? kind) = []) :
    (Clause.dropKey n).Fits s ∧ Altered o t (cs ++ [.dropKey n]) (Clause.effect s (.dropKey n)) := by
  obtain ⟨kind, k, hk, -, rfl⟩ := hc
  refine ⟨?_, h.name, fun m => ?_, fun kind => ?_⟩
  · rw [Clause.Fits, h.indexNames_eq_filter hadded]
    apply List.count_eq_one_of_mem (ho.filter _)
    exact List.mem_filter.mpr ⟨mem_indexNames_of_mem hk, decide_eq_true hnew⟩
  · refine (h.definitions m).trans ?_
    simp [List.filterMap_append, Clause.column?]
  · rw [keysOf_dropKey, h.keys, hadded]
    simp [List.filterMap_append, hadded, Clause.droppedName?, Clause.addedKey?, not_or, and_comm]

/-- One more clause can be carried out. -/
theorem Altered.step (h : Altered o t cs s) (ho : o.indexNames.Nodup)
    (hcs : InOrder o t (cs ++ [c])) : c.Fits s ∧ Altered o t (cs ++ [c]) (c.effect s) := by
  have hc : c.Needed o t := hcs.needed c (List.mem_append_right cs (List.mem_singleton_self c))
  have hnew {f : Clause → Option Text} {n : Text} (hn : f c = some n)
      (hnodup : ((cs ++ [c]).filterMap f).Nodup) : n ∉ cs.filterMap f := by
    rw [List.filterMap_append, List.filterMap_cons_some hn] at hnodup
    exact fun hmem => (List.disjoint_of_nodup_append hnodup) hmem List.mem_cons_self
  cases c with
  | addColumn c => exact h.column_step hc rfl (hnew rfl hcs.columns)
  | dropColumn name => exact h.column_step hc rfl (hnew rfl hcs.columns)
  | modifyColumn c => exact h.column_step hc rfl (hnew rfl hcs.columns)
  | addKey kind k => exact ⟨trivial, h.addKey_step kind k⟩
  | dropKey name =>
    refine h.dropKey_step ho hc (hnew rfl hcs.drops) fun kind => ?_
    rw [List.filterMap_eq_nil_iff]
    intro b hb
    have hdrop := (List.pairwise_append.mp hcs.dropsFirst).2.2 b hb _ (List.mem_singleton_self _) rfl
    cases b with
    | addKey kind k => cases hdrop
    | _ => rfl

theorem InOrder.of_append {ds : List Clause} (h : InOrder o t (cs ++ ds)) : InOrder o t cs := by
  have hsub : cs.Sublist (cs ++ ds) := List.sublist_append_left cs ds
  exact ⟨fun c hc => h.needed c (hsub.mem hc), h.columns.sublist (hsub.filterMap _),
    h.drops.sublist (hsub.filterMap _), h.dropsFirst.sublist hsub⟩

/-- Clauses in order can be carried out to the last. -/
theorem Altered.exists_foldlM (ho : o.indexNames.Nodup) (hs : Altered o t [] s) (hcs : InOrder o t cs) :
    ∃ r, cs.foldlM Clause.carryOut? s = some r ∧ Altered o t cs r := by
  induction cs using List.reverseRecOn with
  | nil => exact ⟨s, rfl, hs⟩
  | append_singleton cs c ih =>
    obtain ⟨r, hrun, hr⟩ := ih hcs.of_append
    obtain ⟨hfits, hstep⟩ := hr.step ho hcs
    refine ⟨c.effect r, ?_, hstep⟩
    rw [List.foldlM_append, hrun]
    simp [Clause.carryOut?_eq_some hfits]

end Run

section Statement

variable {o t s r : Table} {cs : List Clause} {c : Clause} {kind : KeyKind}

theorem filterMap_filter_of_none {β : Type} {p : Clause → Bool} {f : Clause → Option β}
    (h : ∀ c, p c = false → f c = none) : (cs.filter p).filterMap f = cs.filterMap f := by
  rw [List.filterMap_filter]
  apply List.filterMap_congr
  intro c _
  cases hc : p c with
  | false => rw [h c hc]; rfl
  | true => rfl

theorem filterMap_filter_eq_nil {β : Type} {p : Clause → Bool} {f : Clause → Option β}
    (h : ∀ c, p c = true → f c = none) : (cs.filter p).filterMap f = [] :=
  List.filterMap_eq_nil_iff.mpr fun c hc => h c (List.of_mem_filter hc)

/-- The clauses of a statement in the order in which they are carried out. -/
def dropsFirst (cs : List Clause) : List Clause :=
  cs.filter Clause.dropsIndex ++ cs.filter (!·.dropsIndex)

/-- That the drops go first is not seen by what is about them alone. -/
theorem filterMap_dropsFirst_of_drops {β : Type} {f : Clause → Option β}
    (h : ∀ c, c.dropsIndex = false → f c = none) : (dropsFirst cs).filterMap f = cs.filterMap f := by
  rw [dropsFirst, List.filterMap_append, filterMap_filter_of_none h,
    filterMap_filter_eq_nil fun c hc => h c (by simpa using hc), List.append_nil]

/-- Nor is it seen by what is about the other clauses alone. -/
theorem filterMap_dropsFirst_of_others {β : Type} {f : Clause → Option β}
    (h : ∀ c, c.dropsIndex = true → f c = none) : (dropsFirst cs).filterMap f = cs.filterMap f := by
  rw [dropsFirst, List.filterMap_append, filterMap_filter_eq_nil h,
    filterMap_filter_of_none fun c hc => h c (by simpa using hc), List.nil_append]

@[simp] theorem filterMap_column?_dropsFirst :
    (dropsFirst cs).filterMap Clause.column? = cs.filterMap Clause.column? :=
  filterMap_dropsFirst_of_others fun c hc => by cases c <;> first | rfl | cases hc

@[simp] theorem filterMap_addedKey?_dropsFirst :
    (dropsFirst cs).filterMap (Clause.addedKey? kind) = cs.filterMap (Clause.addedKey? kind) :=
  filterMap_dropsFirst_of_others fun c hc => by cases c <;> first | rfl | cases hc

@[simp] theorem filterMap_droppedName?_dropsFirst :
    (dropsFirst cs).filterMap Clause.droppedName? = cs.filterMap Clause.droppedName? :=
  filterMap_dropsFirst_of_drops fun c hc => by cases c <;> first | rfl | cases hc

theorem altered_dropsFirst : Altered o t (dropsFirst cs) r ↔ Altered o t cs r := by
  constructor
  · rintro ⟨hname, hdefinitions, hkeys⟩
    exact ⟨hname, by simpa using hdefinitions, by simpa using hkeys⟩
  · rintro ⟨hname, hdefinitions, hkeys⟩
    exact ⟨hname, by simpa using hdefinitions, by simpa using hkeys⟩

theorem nodup_droppedName?_tableClauses (h : o.indexNames.Nodup) :
    ((tableClauses o t).filterMap Clause.droppedName?).Nodup := by
  rw [filterMap_droppedName?_tableClauses]
  refine h.sublist ?_
  rw [indexNames_eq]
  exact (List.filter_sublist.map _).append (List.filter_sublist.map _)

theorem inOrder_dropsFirst (h : o.indexNames.Nodup) (hcs : cs.Sublist (tableClauses o t)) :
    InOrder o t (dropsFirst cs) := by
  refine ⟨fun c hc => ?_, ?_, ?_, ?_⟩
  · rw [dropsFirst, List.mem_append, List.mem_filter, List.mem_filter] at hc
    exact mem_tableClauses_iff.mp (hcs.mem (hc.elim And.left And.left))
  · rw [filterMap_column?_dropsFirst]
    exact nodup_column?_tableClauses.sublist (hcs.filterMap _)
  · rw [filterMap_droppedName?_dropsFirst]
    exact (nodup_droppedName?_tableClauses h).sublist (hcs.filterMap _)
  · refine List.pairwise_append.mpr ⟨?_, ?_, ?_⟩
    · exact List.pairwise_of_forall_mem_list fun b hb _ _ _ => List.of_mem_filter hb
    · refine List.pairwise_of_forall_mem_list fun b _ c hc hdrop => ?_
      simp [hdrop] at hc
    · exact fun b hb _ _ _ => List.of_mem_filter hb

/-- Any of the clauses between two tables can be carried out without the others. -/
theorem exists_alter?_of_sublist (h : o.indexNames.Nodup) (hs : Altered o t [] s)
    (hcs : cs.Sublist (tableClauses o t)) : ∃ r, s.alter? cs = some r ∧ Altered o t cs r := by
  obtain ⟨r, hrun, hr⟩ := hs.exists_foldlM h (inOrder_dropsFirst h hcs)
  exact ⟨r, hrun, altered_dropsFirst.mp hr⟩

/-- Where no two indexes share a name, the names to drop tell the indexes to drop. -/
theorem name_dropped_iff (h : o.indexNames.Nodup) {k : Key} (hk : k ∈ o.keysOf kind) :
    k.name ∈ (tableClauses o t).filterMap Clause.droppedName? ↔ k.spec ∉ t.specs kind := by
  rw [Clause.mem_filterMap_droppedName?, mem_tableClauses_iff]
  constructor
  · rintro ⟨kind', k', hk', hspec, hn⟩
    obtain ⟨rfl, rfl⟩ := index_of_name h hk' hk hn
    exact hspec
  · intro hspec
    exact ⟨kind, k, hk, hspec, rfl⟩

/-- All the clauses together take the old table to one that declares what the new one does. -/
theorem Altered.agrees (h : o.indexNames.Nodup) (hr : Altered o t (tableClauses o t) r) : r.Agrees t := by
  refine ⟨fun n => ?_, fun kind spec => ?_⟩
  · rw [hr.definitions]
    split
    next => rfl
    next hn =>
      apply columnClause?_eq_none_iff.mp
      rw [Option.eq_none_iff_forall_ne_some]
      intro c hc
      obtain ⟨hcolumn, hneeded⟩ := columnClause?_eq_some_iff.mp hc
      exact hn (List.mem_filterMap.mpr ⟨c, mem_tableClauses_iff.mpr hneeded, hcolumn⟩)
  · rw [Table.specs, hr.keys, List.map_append, List.mem_append, List.mem_map, List.mem_map]
    simp only [List.mem_filter, decide_eq_true_eq, Clause.mem_filterMap_addedKey?, mem_tableClauses_iff]
    constructor
    · rintro (⟨k, ⟨hk, hname⟩, rfl⟩ | ⟨k, ⟨-, hspec, -⟩, rfl⟩)
      · rw [name_dropped_iff h hk] at hname
        exact not_not.mp hname
      · exact hspec
    · intro hspec
      by_cases hold : spec ∈ o.specs kind
      · obtain ⟨k, hk, rfl⟩ := List.mem_map.mp hold
        refine .inl ⟨k, ⟨hk, ?_⟩, rfl⟩
        rw [name_dropped_iff h hk]
        exact not_not_intro hspec
      · exact .inr ⟨⟨indexName spec, spec⟩, ⟨rfl, hspec, hold⟩, rfl⟩

/-- Every clause fits the old table as it stands. -/
theorem fits_of_mem_tableClauses (h : o.indexNames.Nodup) (hc : c ∈ tableClauses o t) :
    c.Fits o.settled := by
  have hsub : [c].Sublist (tableClauses o t) := List.singleton_sublist.mpr hc
  have hcs : InOrder o t ([] ++ [c]) := by
    refine ⟨fun b hb => ?_, ?_, ?_, List.pairwise_singleton _ c⟩
    · exact mem_tableClauses_iff.mp (hsub.mem hb)
    · exact nodup_column?_tableClauses.sublist (hsub.filterMap _)
    · exact (nodup_droppedName?_tableClauses h).sublist (hsub.filterMap _)
  exact ((Altered.settled o t).step h hcs).1

end Statement

end SchemaDrift
