import SchemaDrift.Proofs.Migration.Minimality

namespace SchemaDrift

/-- The name of the index that a clause adds. -/
def Clause.addedName? : Clause → Option Text
  | .addKey _ k => some k.name
  | _ => none

/-- Whether the names that clauses give to indexes differ from each other and from the names that old
indexes keep. -/
structure Clashless (o : Table) (cs : List Clause) : Prop where
  added : (cs.filterMap Clause.addedName?).Nodup
  kept : ∀ n ∈ o.indexNames, .dropKey n ∉ cs → n ∉ cs.filterMap Clause.addedName?

namespace Table

/-- Whether a spec is one that only the new table has in a kind. -/
def Gains (o t : Table) (kind : KeyKind) (spec : Text) : Prop := spec ∈ t.specs kind ∧ spec ∉ o.specs kind

/-- The old table with the indexes alone whose specs the new one has. -/
def kept (o t : Table) : Table where
  name := o.name
  keys := o.keys.filter ((t.specs .ordinary).contains ·.spec)
  uniqueKeys := o.uniqueKeys.filter ((t.specs .unique).contains ·.spec)

/-- The new table with the indexes alone that are to be added to the old one. -/
def gained (o t : Table) : Table where
  name := t.name
  keys := addedKeys o.keys t.keys
  uniqueKeys := addedKeys o.uniqueKeys t.uniqueKeys

end Table

/-- When the names of the added indexes do not get in the way: no two specs that only the new table has
come to one name, and none comes to the declared name of an old index whose spec the new table has. -/
structure NamesApart (o t : Table) : Prop where
  gained : ∀ kind spec kind' spec', o.Gains t kind spec → o.Gains t kind' spec' →
    indexName spec = indexName spec' → kind = kind' ∧ spec = spec'
  kept : ∀ kind spec kind', ∀ k ∈ o.keysOf kind', o.Gains t kind spec → k.spec ∈ t.specs kind' →
    k.name ≠ indexName spec

section Indexes

variable {o t r : Table} {kind : KeyKind} {k : Key} {n : Text}

theorem mem_indexNames : n ∈ o.indexNames ↔ ∃ kind, ∃ k ∈ o.keysOf kind, k.name = n := by
  constructor
  · intro h
    obtain ⟨⟨kind, k⟩, hk, rfl⟩ := List.mem_map.mp h
    exact ⟨kind, k, Table.mem_indexes.mp hk, rfl⟩
  · rintro ⟨kind, k, hk, rfl⟩
    exact mem_indexNames_of_mem hk

theorem mem_keysOf_kept : k ∈ (o.kept t).keysOf kind ↔ k ∈ o.keysOf kind ∧ k.spec ∈ t.specs kind := by
  cases kind <;> simp [Table.kept, Table.keysOf]

theorem mem_keysOf_gained :
    k ∈ (o.gained t).keysOf kind ↔ k.name = indexName k.spec ∧ o.Gains t kind k.spec := by
  cases kind <;> exact mem_addedKeys

theorem nodup_indexes (ho : o.keys.Nodup) (hu : o.uniqueKeys.Nodup) : o.indexes.Nodup := by
  refine List.nodup_append'.mpr ⟨ho.map fun _ _ h => (Prod.mk.inj h).2, hu.map fun _ _ h => (Prod.mk.inj h).2, ?_⟩
  intro i hi hi'
  obtain ⟨k, -, rfl⟩ := List.mem_map.mp hi
  obtain ⟨l, -, he⟩ := List.mem_map.mp hi'
  cases (Prod.mk.inj he).1

/-- The names are distinct exactly if the specs that only the new table has come to distinct names. -/
theorem nodup_gained_iff : (o.gained t).indexNames.Nodup ↔
    ∀ kind spec kind' spec', o.Gains t kind spec → o.Gains t kind' spec' →
      indexName spec = indexName spec' → kind = kind' ∧ spec = spec' := by
  have hindexes : (o.gained t).indexes.Nodup :=
    nodup_indexes (nodup_spec_addedKeys _ _).of_map (nodup_spec_addedKeys _ _).of_map
  constructor
  · intro h kind spec kind' spec' hspec hspec' hname
    have hmem {kind : KeyKind} {spec : Text} (hs : o.Gains t kind spec) :
        ⟨indexName spec, spec⟩ ∈ (o.gained t).keysOf kind := mem_keysOf_gained.mpr ⟨rfl, hs⟩
    obtain ⟨hkind, hkey⟩ := index_of_name h (hmem hspec) (hmem hspec') hname
    exact ⟨hkind, (Key.mk.inj hkey).2⟩
  · intro h
    refine (List.nodup_map_iff_inj_on hindexes).mpr ?_
    rintro ⟨kind, k⟩ hk ⟨kind', k'⟩ hk' (hname : k.name = k'.name)
    obtain ⟨hkname, hkspec⟩ := mem_keysOf_gained.mp (Table.mem_indexes.mp hk)
    obtain ⟨hkname', hkspec'⟩ := mem_keysOf_gained.mp (Table.mem_indexes.mp hk')
    obtain ⟨rfl, hspec⟩ := h kind k.spec kind' k'.spec hkspec hkspec' (hkname ▸ hkname' ▸ hname)
    cases k
    cases k'
    simp_all

theorem disjoint_kept_gained_iff : (o.kept t).indexNames.Disjoint (o.gained t).indexNames ↔
    ∀ kind spec kind', ∀ k ∈ o.keysOf kind', o.Gains t kind spec → k.spec ∈ t.specs kind' →
      k.name ≠ indexName spec := by
  constructor
  · intro h kind spec kind' k hk hspec hkept hname
    refine h (mem_indexNames_of_mem (mem_keysOf_kept.mpr ⟨hk, hkept⟩)) ?_
    exact mem_indexNames.mpr ⟨kind, ⟨indexName spec, spec⟩, mem_keysOf_gained.mpr ⟨rfl, hspec⟩, hname.symm⟩
  · intro h n hkept hgained
    obtain ⟨kind', k, hk, rfl⟩ := mem_indexNames.mp hkept
    obtain ⟨kind, l, hl, hname⟩ := mem_indexNames.mp hgained
    obtain ⟨hk, hspec⟩ := mem_keysOf_kept.mp hk
    obtain ⟨hlname, hlspec⟩ := mem_keysOf_gained.mp hl
    exact h kind l.spec kind' k hk hlspec hspec (hname.symm.trans hlname)

theorem namesApart_iff : NamesApart o t ↔
    (o.gained t).indexNames.Nodup ∧ (o.kept t).indexNames.Disjoint (o.gained t).indexNames := by
  rw [nodup_gained_iff, disjoint_kept_gained_iff]
  exact ⟨fun h => ⟨h.gained, h.kept⟩, fun h => ⟨h.1, h.2⟩⟩

/-- The old indexes whose specs the new table has are those that no clause drops. -/
theorem mem_indexNames_kept_iff (h : o.indexNames.Nodup) :
    n ∈ (o.kept t).indexNames ↔ n ∈ o.indexNames ∧ .dropKey n ∉ tableClauses o t := by
  have hdropped {kind : KeyKind} {k : Key} (hk : k ∈ o.keysOf kind) :
      .dropKey k.name ∉ tableClauses o t ↔ k.spec ∈ t.specs kind := by
    rw [← Clause.mem_filterMap_droppedName?, name_dropped_iff h hk, not_not]
  rw [mem_indexNames, mem_indexNames]
  constructor
  · rintro ⟨kind, k, hk, rfl⟩
    obtain ⟨hk, hspec⟩ := mem_keysOf_kept.mp hk
    exact ⟨⟨kind, k, hk, rfl⟩, (hdropped hk).mpr hspec⟩
  · rintro ⟨⟨kind, k, hk, rfl⟩, hn⟩
    exact ⟨kind, k, mem_keysOf_kept.mpr ⟨hk, (hdropped hk).mp hn⟩, rfl⟩

theorem filterMap_addedName?_tableClauses :
    (tableClauses o t).filterMap Clause.addedName? = (o.gained t).indexNames := by
  have hcolumn (c : Clause) (hc : c.column?.isSome) : c.addedName? = none := by
    cases c with
    | addKey kind k => cases hc
    | _ => rfl
  rw [filterMap_tableClauses hcolumn, keyClauses_eq, keyClauses_eq, indexNames_eq]
  simp [List.filterMap_append, List.filterMap_map, Function.comp_def, Clause.addedName?, Table.gained,
    Table.keysOf]

theorem clashless_tableClauses_iff (h : o.indexNames.Nodup) :
    Clashless o (tableClauses o t) ↔ NamesApart o t := by
  rw [namesApart_iff]
  constructor
  · rintro ⟨hadded, hkept⟩
    rw [filterMap_addedName?_tableClauses] at hadded hkept
    refine ⟨hadded, fun n hn => ?_⟩
    obtain ⟨hold, hdrop⟩ := (mem_indexNames_kept_iff h).mp hn
    exact hkept n hold hdrop
  · rintro ⟨hgained, hdisjoint⟩
    refine ⟨filterMap_addedName?_tableClauses ▸ hgained, fun n hold hdrop => ?_⟩
    rw [filterMap_addedName?_tableClauses]
    exact hdisjoint ((mem_indexNames_kept_iff h).mpr ⟨hold, hdrop⟩)

/-- The altered table has the kept indexes and the added ones. -/
theorem Altered.indexNames_perm (h : o.indexNames.Nodup) (hr : Altered o t (tableClauses o t) r) :
    r.indexNames.Perm ((o.kept t).indexNames ++ (o.gained t).indexNames) := by
  have hkeys (kind : KeyKind) :
      r.keysOf kind = (o.kept t).keysOf kind ++ (o.gained t).keysOf kind := by
    have hkept : (o.keysOf kind).filter (·.name ∉ (tableClauses o t).filterMap Clause.droppedName?) =
        (o.keysOf kind).filter ((t.specs kind).contains ·.spec) := by
      apply List.filter_congr
      intro k hk
      rw [List.contains_eq_mem, decide_eq_decide, name_dropped_iff h hk, not_not]
    rw [hr.keys, hkept, filterMap_addedKey?_tableClauses]
    cases kind <;> rfl
  rw [List.perm_iff_count]
  intro n
  simp only [indexNames_eq, hkeys, List.map_append, List.count_append]
  omega

theorem nodup_kept (h : o.indexNames.Nodup) : (o.kept t).indexNames.Nodup := by
  refine h.sublist ?_
  rw [indexNames_eq, indexNames_eq]
  exact (List.filter_sublist.map _).append (List.filter_sublist.map _)

theorem Altered.nodup_indexNames_iff (h : o.indexNames.Nodup) (hr : Altered o t (tableClauses o t) r) :
    r.indexNames.Nodup ↔ NamesApart o t := by
  rw [(hr.indexNames_perm h).nodup_iff, List.nodup_append', namesApart_iff]
  exact and_iff_right (nodup_kept h)

/-- Tables whose indexes all bear the names made of their specs never get in the way of each other. -/
theorem namesApart_of_synthesized (ht : t.indexNames.Nodup)
    (hold : ∀ kind, ∀ k ∈ o.keysOf kind, k.name = k.synthesizedName)
    (hnew : ∀ kind, ∀ k ∈ t.keysOf kind, k.name = k.synthesizedName) : NamesApart o t := by
  -- a spec of the new table is that of an index whose name is made of it
  have hindex {kind : KeyKind} {spec : Text} (hs : spec ∈ t.specs kind) :
      ∃ k ∈ t.keysOf kind, k.spec = spec ∧ k.name = indexName spec := by
    obtain ⟨k, hk, rfl⟩ := List.mem_map.mp hs
    exact ⟨k, hk, rfl, hnew kind k hk⟩
  refine ⟨fun kind spec kind' spec' hs hs' hname => ?_, fun kind spec kind' k hk hs hkept hname => ?_⟩
  · obtain ⟨k, hk, rfl, hkname⟩ := hindex hs.1
    obtain ⟨k', hk', rfl, hkname'⟩ := hindex hs'.1
    obtain ⟨hkind, rfl⟩ := index_of_name ht hk hk' (by rw [hkname, hkname', hname])
    exact ⟨hkind, rfl⟩
  · obtain ⟨l, hl, rfl, hlname⟩ := hindex hs.1
    obtain ⟨m, hm, hmspec, hmname⟩ := hindex hkept
    have hnames : m.name = l.name := by
      rw [hmname, hlname, ← hname, hold kind' k hk, Key.synthesizedName]
    obtain ⟨rfl, rfl⟩ := index_of_name ht hm hl hnames
    exact hs.2 (hmspec ▸ List.mem_map_of_mem hk)

end Indexes

/-- The clauses leave distinct index names exactly if the added names differ from each other and from the
names of the indexes that are not dropped. That is so exactly if no two specs that only the new table has
come to one name and none comes to the declared name of an old index whose spec the new table has, and
always if the indexes of both tables bear the names made of their specs. -/
theorem added_names_apart_iff (o t : Table) (h : o.indexNames.Nodup) :
    (∃ r, o.settled.alter? (tableClauses o t) = some r ∧ (r.indexNames.Nodup ↔ NamesApart o t)) ∧
    (Clashless o (tableClauses o t) ↔ NamesApart o t) ∧
    (t.indexNames.Nodup → (∀ s ∈ [o, t], ∀ kind, ∀ k ∈ s.keysOf kind, k.name = k.synthesizedName) →
      NamesApart o t) := by
  obtain ⟨r, hrun, hr⟩ := exists_alter?_of_sublist h (.settled o t) (List.Sublist.refl (tableClauses o t))
  refine ⟨⟨r, hrun, hr.nodup_indexNames_iff h⟩, clashless_tableClauses_iff h, fun ht hnames => ?_⟩
  exact namesApart_of_synthesized ht (hnames o (by simp)) (hnames t (by simp))

/-- An index that becomes unique under the name it had. -/
theorem added_names_apart_moved :
    let o : Table := { name := "t", keys := [⟨"a", "`a`"⟩, ⟨"b_c", "`b`,`c`"⟩] }
    let t : Table := { name := "t", keys := [⟨"b_c", "`b`,`c`"⟩, ⟨"d", "`d`"⟩], uniqueKeys := [⟨"a", "`a`"⟩] }
    o.indexNames.Nodup ∧ t.indexNames.Nodup ∧
      ∃ r, o.settled.alter? (tableClauses o t) = some r ∧ r.indexNames.Nodup := by
  intro o t
  have h : o.indexNames.Nodup := by decide
  have ht : t.indexNames.Nodup := by decide
  have hnames : ∀ s ∈ [o, t], ∀ kind, ∀ k ∈ s.keysOf kind, k.name = k.synthesizedName := by
    intro s hs kind
    rcases List.mem_pair.mp hs with rfl | rfl <;> cases kind <;> decide
  obtain ⟨⟨r, hrun, hiff⟩, -, hapart⟩ := added_names_apart_iff o t h
  exact ⟨h, ht, r, hrun, hiff.mpr (hapart ht hnames)⟩

/-- Specs that come to one name in one kind, in both kinds, and to the name of an index that stays. -/
theorem added_names_clash :
    let o : Table := { name := "t", keys := [⟨"b", "`a`"⟩] }
    let t : Table := {
      name := "t"
      keys := [⟨"k", "`a`"⟩, ⟨"l", "`b`"⟩, ⟨"m", "`c`,`d`"⟩, ⟨"n", "`c_d`"⟩]
      uniqueKeys := [⟨"u", "`b`"⟩] }
    o.name = t.name ∧ o.indexNames.Nodup ∧ t.indexNames.Nodup ∧
      tableClauses o t = [.addKey .ordinary ⟨"b", "`b`"⟩, .addKey .ordinary ⟨"c_d", "`c`,`d`"⟩,
        .addKey .ordinary ⟨"c_d", "`c_d`"⟩, .addKey .unique ⟨"b", "`b`"⟩] ∧
      ¬ ((tableClauses o t).filterMap Clause.addedName?).Nodup ∧
      (∃ n ∈ o.indexNames, .dropKey n ∉ tableClauses o t ∧
        n ∈ (tableClauses o t).filterMap Clause.addedName?) ∧
      ∃ r, o.settled.alter? (tableClauses o t) = some r ∧ ¬ r.indexNames.Nodup := by
  intro o t
  have hclauses : tableClauses o t = [.addKey .ordinary ⟨"b", "`b`"⟩, .addKey .ordinary ⟨"c_d", "`c`,`d`"⟩,
      .addKey .ordinary ⟨"c_d", "`c_d`"⟩, .addKey .unique ⟨"b", "`b`"⟩] := by decide +kernel
  rw [hclauses]
  exact ⟨rfl, by decide, by decide, rfl, by decide, ⟨"b", by decide, by decide, by decide⟩, _, rfl, by decide⟩

end SchemaDrift
