import SchemaDrift.Proofs.Migration.Alteration

namespace SchemaDrift

section Statements

variable {o t : Table}

/-- One statement takes the old table to one that declares what the new one does. -/
theorem exists_alter?_tableClauses (h : o.indexNames.Nodup) :
    ∃ r, o.settled.alter? (tableClauses o t) = some r ∧ r.name = o.name ∧ r.Agrees t := by
  obtain ⟨r, hrun, hr⟩ := exists_alter?_of_sublist h (.settled o t) (List.Sublist.refl (tableClauses o t))
  exact ⟨r, hrun, hr.name, hr.agrees h⟩

/-- What a migration is to bring about under a name of the new side. -/
def Reached (old new : List Table) (name : Text) (held : Option Table) : Prop :=
  ∀ t, lastTable? new name = some t →
    ∃ r, held = some r ∧ r.Agrees t ∧ (lastTable? old name = none → r = t.settled)

variable {old new ts : List Table} {n : Text} {c : Change}

/-- A table that only the new side has can be created. -/
theorem create_step (ht : lastTable? new n = some t)
    (hd : (ts.map Table.name).Nodup) (hts : lastTable? ts n = none) :
    ∃ ts', (Change.create t).carryOut? ts = some ts' ∧ (ts'.map Table.name).Nodup ∧
      Reached old new n (lastTable? ts' n) ∧ ∀ m, m ≠ n → lastTable? ts' m = lastTable? ts m := by
  have hn : t.name = n := name_of_lastNamed? ht
  have hnot : t.name ∉ ts.map Table.name := by
    rw [hn, ← lastNamed?_eq_none_iff]
    exact hts
  have hlast : ∀ m, lastTable? (ts ++ [t.settled]) m =
      if t.name = m then some t.settled else lastTable? ts m := fun _ => lastNamed?_concat
  have hcreate : (Change.create t).carryOut? ts = some (ts ++ [t.settled]) := by
    rw [Change.carryOut?, hn, hts]
  refine ⟨ts ++ [t.settled], hcreate, ?_, ?_, ?_⟩
  · rw [List.map_append]
    exact List.nodup_append'.mpr
      ⟨hd, List.nodup_singleton _, List.disjoint_singleton.mpr hnot⟩
  · intro u hu
    rw [ht, Option.some.injEq] at hu
    subst hu
    rw [hlast, if_pos hn]
    exact ⟨_, rfl, t.settled_agrees, fun _ => rfl⟩
  · intro m hm
    rw [hlast, if_neg fun he => hm (he.symm.trans hn)]

/-- A table that both sides have can be altered into one that agrees with the new side's. -/
theorem alter_step (hnames : o.indexNames.Nodup) (ho : lastTable? old n = some o)
    (ht : lastTable? new n = some t) (hd : (ts.map Table.name).Nodup)
    (hts : lastTable? ts n = some o.settled) :
    ∃ ts', (Change.alter t.name (tableClauses o t)).carryOut? ts = some ts' ∧
      (ts'.map Table.name).Nodup ∧ Reached old new n (lastTable? ts' n) ∧
        ∀ m, m ≠ n → lastTable? ts' m = lastTable? ts m := by
  have hon : o.name = n := name_of_lastNamed? ho
  have htn : t.name = n := name_of_lastNamed? ht
  obtain ⟨r, hr, hrn, hagrees⟩ := exists_alter?_tableClauses (t := t) hnames
  have hname : r.name = n := hrn.trans hon
  refine ⟨replaceTable n r ts, ?_, ?_, ?_, ?_⟩
  · rw [Change.carryOut?, htn, hts]
    simp only [Option.bind_eq_bind, Option.bind_some, hr]
  · rw [map_name_replaceTable hname]
    exact hd
  · intro u hu
    rw [ht, Option.some.injEq] at hu
    subst hu
    rw [lastTable?_replaceTable hname, if_pos rfl, hts, ho]
    exact ⟨r, rfl, hagrees, fun h => absurd h (Option.some_ne_none _)⟩
  · intro m hm
    rw [lastTable?_replaceTable hname, if_neg hm]

/-- The statement for a name can be carried out on a catalog that has the old table there. It brings
the new table about and leaves the other tables alone. -/
theorem change_step (h : ∀ u ∈ old, u.indexNames.Nodup)
    (hc : change? (lastTable? old n) (lastTable? new n) = some c)
    (hd : (ts.map Table.name).Nodup) (hts : lastTable? ts n = (lastTable? old n).map Table.settled) :
    ∃ ts', c.carryOut? ts = some ts' ∧ (ts'.map Table.name).Nodup ∧
      Reached old new n (lastTable? ts' n) ∧ ∀ m, m ≠ n → lastTable? ts' m = lastTable? ts m := by
  rcases change?_eq_some hc with ⟨t, ho, ht, rfl⟩ | ⟨o, t, ho, ht, rfl⟩
  · rw [ho, Option.map_none] at hts
    exact create_step ht hd hts
  · rw [ho, Option.map_some] at hts
    exact alter_step (h o (mem_of_lastNamed? ho)) ho ht hd hts

end Statements

namespace Migration

/-- A migration can be carried out on what the old tables come to. Every clause fits the table it is
for: a column to add is not there yet, one to drop or to modify is, and an index to drop is the only
one of its name. Afterwards every table of the new side is there and agrees with it, a table that the
old side lacked is there as the new side has it, and the tables of the old side alone are what they
were. Nothing is left to migrate. -/
theorem exists_carryOut?_between (old new : List Table) (h : ∀ t ∈ old, t.indexNames.Nodup) :
    (∀ name clauses, .alter name clauses ∈ between old new →
      ∃ o, lastTable? (catalog old) name = some o ∧ ∀ c ∈ clauses, c.Fits o) ∧
    ∃ result, (between old new).carryOut? (catalog old) = some result ∧
      (result.map Table.name).Nodup ∧
      (∀ name t, lastTable? new name = some t →
        ∃ r, lastTable? result name = some r ∧ r.Agrees t ∧
          (name ∉ old.map Table.name → r = t.settled)) ∧
      (∀ name, name ∉ new.map Table.name →
        lastTable? result name = lastTable? (catalog old) name) ∧
      between result new = [] := by
  constructor
  · intro name clauses hc
    obtain ⟨n, -, hc⟩ := List.mem_filterMap.mp hc
    rcases change?_eq_some hc with ⟨t, -, -, he⟩ | ⟨o, t, ho, ht, he⟩
    · cases he
    · cases he
      refine ⟨o.settled, ?_, fun c hc => fits_of_mem_tableClauses (h o (mem_of_lastNamed? ho)) hc⟩
      rw [lastTable?_catalog, show t.name = n from name_of_lastNamed? ht, ho, Option.map_some]
  · have hskip : ∀ n, change? (lastTable? old n) (lastTable? new n) = none →
        Reached old new n ((lastTable? old n).map Table.settled) := by
      intro n hc t ht
      rw [ht, change?_eq_none_iff] at hc
      obtain ⟨o, ho, hagrees⟩ := hc
      rw [ho]
      exact ⟨o.settled, rfl, o.settled_agrees.trans hagrees,
        fun hn => absurd hn (Option.some_ne_none _)⟩
    obtain ⟨result, hrun, hd, hreached, hsame⟩ :=
      exists_foldlM_settling Change.carryOut? lastTable?
        (fun n => (lastTable? old n).map Table.settled) (Reached old new)
        (fun ts => (ts.map Table.name).Nodup) hskip
        (fun n c ts hc hd hts => change_step h hc hd hts)
        (nodup_sortedNames (new.map Table.name))
        (by rw [map_name_catalog]; exact nodup_sortedNames _)
        (fun n _ => lastTable?_catalog old n)
    have hnew : ∀ name t, lastTable? new name = some t →
        ∃ r, lastTable? result name = some r ∧ r.Agrees t ∧
          (name ∉ old.map Table.name → r = t.settled) := by
      intro name t ht
      have hmem : name ∈ new.map Table.name := by
        rw [← name_of_lastNamed? ht]
        exact List.mem_map_of_mem (mem_of_lastNamed? ht)
      obtain ⟨r, hr, hagrees, hset⟩ := hreached name (mem_sortedNames.mpr hmem) t ht
      exact ⟨r, hr, hagrees, fun hn => hset (lastNamed?_eq_none_iff.mpr hn)⟩
    refine ⟨result, hrun, hd, hnew, ?_, ?_⟩
    · intro name hn
      exact hsame name fun hm => hn (mem_sortedNames.mp hm)
    · rw [between_eq_nil_iff]
      intro name hname
      obtain ⟨t, ht⟩ := exists_lastNamed? hname
      obtain ⟨r, hr, hagrees, -⟩ := hnew name t ht
      exact ⟨r, t, hr, ht, hagrees⟩

/-- A repeated table, a repeated column, an index that becomes unique and a new table. -/
theorem exists_carryOut?_between_moved_key :
    let old : List Table := [
      { name := "t", columns := [⟨"x", "int"⟩] },
      { name := "t", columns := [⟨"a", "int"⟩, ⟨"b", "int"⟩, ⟨"a", "text"⟩], keys := [⟨"k", "`a`"⟩] }]
    let new : List Table := [
      { name := "u", content := "CREATE TABLE `u` () ENGINE" },
      { name := "t", columns := [⟨"a", "int"⟩, ⟨"c", "int"⟩]
        uniqueKeys := [⟨"k", "`a`"⟩, ⟨"l", "`a`"⟩] }]
    (∀ t ∈ old, t.indexNames.Nodup) ∧
      ∃ result, (between old new).carryOut? (catalog old) = some result ∧ between result new = [] := by
  intro old new
  have h : ∀ t ∈ old, t.indexNames.Nodup := by decide
  obtain ⟨-, result, hrun, -, -, -, hnil⟩ := exists_carryOut?_between old new h
  exact ⟨h, result, hrun, hnil⟩

end Migration

end SchemaDrift
