import SchemaDrift.Proofs.Migration.Agreement

namespace SchemaDrift

namespace Clause

/-- The column a clause is about. -/
def column? : Clause → Option Text
  | .addColumn c => some c.name
  | .dropColumn name => some name
  | .modifyColumn c => some c.name
  | .addKey _ _ => none
  | .dropKey _ => none

/-- The key of one kind that a clause adds. -/
def addedKey? (kind : KeyKind) : Clause → Option Key
  | .addKey kind' k => if kind' = kind then some k else none
  | _ => none

/-- The declared name of the index that a clause drops. -/
def droppedName? : Clause → Option Text
  | .dropKey name => some name
  | _ => none

/-- What makes a clause necessary to get from one table to another. -/
def Needed (o t : Table) : Clause → Prop
  | .addColumn c => lastColumn? o.columns c.name = none ∧ lastColumn? t.columns c.name = some c
  | .dropColumn name => (∃ c, lastColumn? o.columns name = some c) ∧ lastColumn? t.columns name = none
  | .modifyColumn c => (∃ d, lastColumn? o.columns c.name = some d ∧ d.definition ≠ c.definition) ∧
      lastColumn? t.columns c.name = some c
  | .addKey kind k => k.name = indexName k.spec ∧ k.spec ∈ t.specs kind ∧ k.spec ∉ o.specs kind
  | .dropKey name => ∃ kind, ∃ k ∈ o.keysOf kind, k.spec ∉ t.specs kind ∧ k.name = name

variable {c : Clause} {cs : List Clause} {kind : KeyKind} {k : Key} {n : Text}

theorem addedKey?_eq_some_iff : c.addedKey? kind = some k ↔ c = .addKey kind k := by
  cases c <;> simp [addedKey?]

theorem droppedName?_eq_some_iff : c.droppedName? = some n ↔ c = .dropKey n := by
  cases c <;> simp [droppedName?]

theorem addedKey?_eq_none (h : c.column?.isSome) : c.addedKey? kind = none := by
  cases c with
  | addKey kind' k => cases h
  | _ => rfl

theorem droppedName?_eq_none (h : c.column?.isSome) : c.droppedName? = none := by
  cases c with
  | dropKey name => cases h
  | _ => rfl

theorem mem_filterMap_addedKey? : k ∈ cs.filterMap (addedKey? kind) ↔ .addKey kind k ∈ cs := by
  simp [List.mem_filterMap, addedKey?_eq_some_iff]

theorem mem_filterMap_droppedName? : n ∈ cs.filterMap droppedName? ↔ .dropKey n ∈ cs := by
  simp [List.mem_filterMap, droppedName?_eq_some_iff]

end Clause

section Membership

variable {o t : Table} {c : Clause} {kind : KeyKind} {n : Text}

/-- There is a clause for a column name exactly if something has to be done about that column. -/
theorem columnClause?_eq_some_iff :
    columnClause? (lastColumn? o.columns n) (lastColumn? t.columns n) = some c ↔
      c.column? = some n ∧ c.Needed o t := by
  constructor
  · intro h
    cases ho : lastColumn? o.columns n with
    | none =>
      cases ht : lastColumn? t.columns n with
      | none => simp [columnClause?, ho, ht] at h
      | some d =>
        have hd : d.name = n := name_of_lastNamed? ht
        rw [ho, ht, columnClause?, Option.some.injEq] at h
        subst h hd
        exact ⟨rfl, ho, ht⟩
    | some b =>
      have hb : b.name = n := name_of_lastNamed? ho
      cases ht : lastColumn? t.columns n with
      | none =>
        rw [ho, ht, columnClause?, Option.some.injEq] at h
        subst h hb
        exact ⟨rfl, ⟨b, ho⟩, ht⟩
      | some d =>
        have hd : d.name = n := name_of_lastNamed? ht
        rw [ho, ht, columnClause?] at h
        split at h
        · cases h
        next hne =>
          rw [Option.some.injEq] at h
          subst h hd
          exact ⟨rfl, ⟨b, ho, hne⟩, ht⟩
  · rintro ⟨hn, hneeded⟩
    cases c with
    | addColumn c =>
      cases hn
      obtain ⟨ho, ht⟩ := hneeded
      rw [ho, ht, columnClause?]
    | dropColumn m =>
      cases hn
      obtain ⟨⟨c, ho⟩, ht⟩ := hneeded
      rw [ho, ht, columnClause?, show c.name = n from name_of_lastNamed? ho]
    | modifyColumn c =>
      cases hn
      obtain ⟨⟨d, ho, hne⟩, ht⟩ := hneeded
      rw [ho, ht, columnClause?, if_neg hne]
    | addKey kind k => cases hn
    | dropKey m => cases hn

theorem mem_columnClauses_iff :
    c ∈ columnClauses o.columns t.columns ↔ c.column?.isSome ∧ c.Needed o t := by
  simp only [columnClauses, List.mem_filterMap, mem_sortedNames, columnClause?_eq_some_iff]
  constructor
  · rintro ⟨n, -, hn, hneeded⟩
    exact ⟨Option.isSome_of_eq_some hn, hneeded⟩
  · rintro ⟨hcolumn, hneeded⟩
    obtain ⟨n, hn⟩ := Option.isSome_iff_exists.mp hcolumn
    refine ⟨n, ?_, hn, hneeded⟩
    rw [List.mem_append]
    by_contra! hmem
    have ho : lastColumn? o.columns n = none := lastNamed?_eq_none_iff.mpr hmem.1
    have ht : lastColumn? t.columns n = none := lastNamed?_eq_none_iff.mpr hmem.2
    have hclause := columnClause?_eq_some_iff.mpr ⟨hn, hneeded⟩
    rw [ho, ht] at hclause
    cases hclause

theorem mem_tableClauses : c ∈ tableClauses o t ↔ c ∈ columnClauses o.columns t.columns ∨
    ∃ kind, c ∈ keyClauses kind (o.keysOf kind) (t.keysOf kind) := by
  rw [tableClauses, List.mem_append, List.mem_append, or_assoc]
  refine or_congr_right ⟨?_, ?_⟩
  · rintro (h | h)
    · exact ⟨.ordinary, h⟩
    · exact ⟨.unique, h⟩
  · rintro ⟨kind, h⟩
    cases kind
    · exact .inl h
    · exact .inr h

theorem mem_keyClauses : c ∈ keyClauses kind (o.keysOf kind) (t.keysOf kind) ↔
    (∃ k, (Clause.addKey kind k).Needed o t ∧ c = .addKey kind k) ∨
      ∃ k ∈ o.keysOf kind, k.spec ∉ t.specs kind ∧ c = .dropKey k.name := by
  have hadd (k : Key) : k ∈ addedKeys (o.keysOf kind) (t.keysOf kind) ↔ (Clause.addKey kind k).Needed o t :=
    mem_addedKeys
  have hdrop (n : Text) : n ∈ droppedNames (o.keysOf kind) (t.keysOf kind) ↔
      ∃ k ∈ o.keysOf kind, k.spec ∉ t.specs kind ∧ k.name = n := mem_droppedNames
  simp only [keyClauses_eq, List.mem_append, List.mem_map, hadd, hdrop]
  refine or_congr (exists_congr fun k => and_congr_right fun _ => eq_comm) ⟨?_, ?_⟩
  · rintro ⟨n, ⟨k, hk, hspec, rfl⟩, rfl⟩
    exact ⟨k, hk, hspec, rfl⟩
  · rintro ⟨k, hk, hspec, rfl⟩
    exact ⟨k.name, ⟨k, hk, hspec, rfl⟩, rfl⟩

/-- The clauses between two tables are those that are needed. -/
theorem mem_tableClauses_iff : c ∈ tableClauses o t ↔ c.Needed o t := by
  rw [mem_tableClauses, mem_columnClauses_iff]
  simp only [mem_keyClauses]
  cases c with
  | addColumn c => simp [Clause.column?]
  | dropColumn n => simp [Clause.column?]
  | modifyColumn c => simp [Clause.column?]
  | addKey kind k => simp [Clause.column?]
  | dropKey n => simp [Clause.column?, Clause.Needed, eq_comm]

end Membership

section Parts

variable {o t : Table} {kind : KeyKind}

/-- What is not about columns is seen in the clauses for the keys alone. -/
theorem filterMap_tableClauses {β : Type} {f : Clause → Option β}
    (h : ∀ c : Clause, c.column?.isSome → f c = none) :
    (tableClauses o t).filterMap f = (keyClauses .ordinary o.keys t.keys).filterMap f ++
      (keyClauses .unique o.uniqueKeys t.uniqueKeys).filterMap f := by
  have hcolumns : (columnClauses o.columns t.columns).filterMap f = [] :=
    List.filterMap_eq_nil_iff.mpr fun c hc => h c (mem_columnClauses_iff.mp hc).1
  rw [tableClauses, List.filterMap_append, List.filterMap_append, hcolumns, List.nil_append]

theorem filterMap_column?_keyClauses (old new : List Key) :
    (keyClauses kind old new).filterMap Clause.column? = [] := by
  simp [keyClauses_eq, List.filterMap_append, List.filterMap_map, Function.comp_def, Clause.column?]

theorem filterMap_column?_tableClauses :
    (tableClauses o t).filterMap Clause.column? = (columnClauses o.columns t.columns).filterMap Clause.column? := by
  rw [tableClauses, List.filterMap_append, List.filterMap_append, filterMap_column?_keyClauses,
    filterMap_column?_keyClauses, List.append_nil, List.append_nil]

/-- The columns that the clauses are about come in the order of their names, each of them once. -/
theorem pairwise_column?_tableClauses : ((tableClauses o t).filterMap Clause.column?).Pairwise (· < ·) := by
  have hname {n m : Text} {c : Clause}
      (hc : columnClause? (lastColumn? o.columns n) (lastColumn? t.columns n) = some c)
      (hm : c.column? = some m) : m = n := by
    obtain ⟨hn, -⟩ := columnClause?_eq_some_iff.mp hc
    exact Option.some.inj (hm.symm.trans hn)
  rw [filterMap_column?_tableClauses, columnClauses, List.pairwise_filterMap, List.pairwise_filterMap]
  refine (pairwise_sortedNames _).imp fun hlt c hc d hd n hn m hm => ?_
  rwa [hname hc hn, hname hd hm]

theorem nodup_column?_tableClauses : ((tableClauses o t).filterMap Clause.column?).Nodup :=
  nodup_of_pairwise_lt pairwise_column?_tableClauses

theorem filterMap_addedKey?_tableClauses : (tableClauses o t).filterMap (Clause.addedKey? kind) =
    addedKeys (o.keysOf kind) (t.keysOf kind) := by
  rw [filterMap_tableClauses fun c hc => Clause.addedKey?_eq_none hc, keyClauses_eq, keyClauses_eq]
  cases kind <;>
    simp [List.filterMap_append, List.filterMap_map, Clause.addedKey?, Table.keysOf]

theorem filterMap_droppedName?_tableClauses : (tableClauses o t).filterMap Clause.droppedName? =
    droppedNames o.keys t.keys ++ droppedNames o.uniqueKeys t.uniqueKeys := by
  rw [filterMap_tableClauses fun c hc => Clause.droppedName?_eq_none hc, keyClauses_eq, keyClauses_eq]
  simp [List.filterMap_append, List.filterMap_map, Clause.droppedName?]

end Parts

end SchemaDrift
