import SchemaDrift.Proofs.Migration.Agreement
import SchemaDrift.Proofs.Text.ByteOrder

namespace SchemaDrift

variable {α : Type}

/-- The same elements in another order, in which those of one name still come in the order they had. -/
structure Rearranged (nameOf : α → Text) (xs ys : List α) : Prop where
  perm : xs.Perm ys
  order : ∀ n, xs.filter (nameOf · = n) = ys.filter (nameOf · = n)

/-- The elements that no later one of the same name replaces. -/
def unreplaced (nameOf : α → Text) : List α → List α
  | [] => []
  | x :: xs => if (xs.map nameOf).contains (nameOf x) then unreplaced nameOf xs else x :: unreplaced nameOf xs

section Lookup

variable {nameOf : α → Text} {xs ys : List α} {x : α}

theorem Rearranged.refl (nameOf : α → Text) (xs : List α) : Rearranged nameOf xs xs := ⟨.refl xs, fun _ => rfl⟩

/-- Two neighbours of different names can change places. -/
theorem Rearranged.swap {y : α} (h : nameOf x ≠ nameOf y) (front rest : List α) :
    Rearranged nameOf (front ++ x :: y :: rest) (front ++ y :: x :: rest) where
  perm := (List.Perm.swap y x rest).append_left front
  order n := by
    simp only [List.filter_append, List.filter_cons]
    by_cases hx : nameOf x = n
    · have hy : nameOf y ≠ n := fun hy => h (hx.trans hy.symm)
      simp [hx, hy]
    · simp [hx]

theorem Rearranged.lastNamed?_eq (h : Rearranged nameOf xs ys) (n : Text) :
    lastNamed? nameOf xs n = lastNamed? nameOf ys n := by
  rw [lastNamed?_eq_getLast?_filter, lastNamed?_eq_getLast?_filter, h.order n]

theorem Rearranged.mem_map_iff (h : Rearranged nameOf xs ys) (n : Text) :
    n ∈ xs.map nameOf ↔ n ∈ ys.map nameOf :=
  (h.perm.map nameOf).mem_iff

@[simp] theorem lastNamed?_unreplaced (xs : List α) (n : Text) :
    lastNamed? nameOf (unreplaced nameOf xs) n = lastNamed? nameOf xs n := by
  induction xs with
  | nil => rfl
  | cons x xs ih =>
    rw [unreplaced, lastNamed?_cons]
    split
    next hx =>
      -- what replaces `x` is found in its place
      obtain ⟨y, hy⟩ := exists_lastNamed? (List.contains_iff_mem.mp hx)
      rw [ih]
      by_cases hn : nameOf x = n
      · rw [← hn, hy, Option.some_or]
      · rw [if_neg hn, Option.or_none]
    next => rw [lastNamed?_cons, ih]

/-- Elements of foreign names are not seen by a look-up. -/
theorem lastNamed?_congr_of_filter {names : List Text} {n : Text} (hn : n ∈ names)
    (h : xs.filter (nameOf · ∈ names) = ys.filter (nameOf · ∈ names)) :
    lastNamed? nameOf xs n = lastNamed? nameOf ys n := by
  have hsplit (zs : List α) : zs.filter (nameOf · = n) =
      (zs.filter (nameOf · ∈ names)).filter (nameOf · = n) := by
    rw [List.filter_filter]
    apply List.filter_congr
    intro z _
    by_cases hz : nameOf z = n <;> simp [hz, hn]
  rw [lastNamed?_eq_getLast?_filter, lastNamed?_eq_getLast?_filter, hsplit xs, hsplit ys, h]

end Lookup

theorem table_of_change? {o : Option Table} {t : Table} {c : Change} (h : change? o (some t) = some c) :
    c.table = t.name := by
  rcases change?_eq_some h with ⟨_, -, ht, rfl⟩ | ⟨_, _, -, ht, rfl⟩ <;> cases ht <;> rfl

namespace Migration

variable {old old' new new' : List Table} {n : Text} {c : Change}

/-- What has to happen to the last tables of one name, taken by themselves. -/
def ofName (old new : List Table) (n : Text) : Migration :=
  between (lastTable? old n).toList (lastTable? new n).toList

theorem lastTable?_toList (ts : List Table) (n : Text) :
    lastTable? (lastTable? ts n).toList n = lastTable? ts n := by
  cases h : lastTable? ts n with
  | none => rfl
  | some t =>
    have ht : t.name = n := name_of_lastNamed? h
    simp [lastTable?, ht]

theorem ofName_eq (old new : List Table) (n : Text) :
    ofName old new n = (change? (lastTable? old n) (lastTable? new n)).toList := by
  have ho := lastTable?_toList old n
  have hn := lastTable?_toList new n
  rw [ofName, between]
  cases ht : lastTable? new n with
  | none =>
    rw [change?]
    rfl
  | some t =>
    rw [ht] at hn
    have hname : sortedNames ((some t).toList.map Table.name) = [n] :=
      congrArg (fun m => [m]) (name_of_lastNamed? ht)
    rw [hname, List.filterMap_cons, ho, hn]
    cases change? (lastTable? old n) (some t) <;> rfl

/-- A migration is put together from those of the single names. -/
theorem between_eq_flatMap (old new : List Table) :
    between old new = (sortedNames (new.map Table.name)).flatMap (ofName old new) := by
  rw [between, List.filterMap_eq_flatMap_toList]
  congr 1
  funext n
  exact (ofName_eq old new n).symm

theorem table_of_change?_lastTable?
    (h : change? (lastTable? old n) (lastTable? new n) = some c) : c.table = n := by
  cases ht : lastTable? new n with
  | none =>
    rw [ht, change?] at h
    cases h
  | some t =>
    rw [ht] at h
    exact (table_of_change? h).trans (name_of_lastNamed? ht)

/-- The changes are about different tables, in ascending order of their names. -/
theorem pairwise_table_between (old new : List Table) :
    ((between old new).map Change.table).Pairwise (· < ·) := by
  rw [between, List.pairwise_map, List.pairwise_filterMap]
  refine (pairwise_sortedNames _).imp ?_
  intro n m hlt c hc d hd
  rwa [table_of_change?_lastTable? hc, table_of_change?_lastTable? hd]

theorem table_mem_of_mem_between (h : c ∈ between old new) : c.table ∈ new.map Table.name := by
  obtain ⟨n, hn, hc⟩ := List.mem_filterMap.mp h
  rw [table_of_change?_lastTable? hc]
  exact mem_sortedNames.mp hn

/-- A migration depends on the last tables of the names of the new side, and on nothing else. -/
theorem between_congr (hnew : ∀ n, lastTable? new n = lastTable? new' n)
    (hold : ∀ n ∈ new.map Table.name, lastTable? old n = lastTable? old' n) :
    between old new = between old' new' := by
  have hnames : sortedNames (new.map Table.name) = sortedNames (new'.map Table.name) := by
    apply sortedNames_congr
    intro n
    rw [← not_iff_not, ← lastNamed?_eq_none_iff, ← lastNamed?_eq_none_iff, ← lastTable?_eq, hnew,
      lastTable?_eq]
  rw [between, between, ← hnames]
  apply List.filterMap_congr
  intro n hn
  rw [hnew, hold n (mem_sortedNames.mp hn)]

/-- A migration is made name by name: over the names of the new side, in the order of their code
points, which is the order of their bytes, it is what the last tables of each name come to by
themselves. That is one change or none, and no change is about another name. So neither the order of
differently named tables, nor tables that later ones replace, nor tables of the old side whose names
the new side lacks have a bearing on the script. -/
theorem between_local (old new : List Table) :
    (∃ names : List Text, (∀ n, n ∈ names ↔ n ∈ new.map Table.name) ∧ names.Pairwise (· < ·) ∧
      (names.map Utf8.encode).Pairwise (· < ·) ∧ between old new = names.flatMap (ofName old new)) ∧
    (∀ n, (ofName old new n).length ≤ 1) ∧
    ((between old new).map Change.table).Pairwise (· < ·) ∧
    (∀ c ∈ between old new, c.table ∈ new.map Table.name) ∧
    (∀ old' new', Rearranged Table.name old old' → Rearranged Table.name new new' →
      migrationScript old' new' = migrationScript old new) ∧
    migrationScript (unreplaced Table.name old) new = migrationScript old new ∧
    migrationScript old (unreplaced Table.name new) = migrationScript old new ∧
    (∀ old', old'.filter (·.name ∈ new.map Table.name) = old.filter (·.name ∈ new.map Table.name) →
      migrationScript old' new = migrationScript old new) := by
  refine ⟨⟨sortedNames (new.map Table.name), fun n => mem_sortedNames, pairwise_sortedNames _, ?_,
    between_eq_flatMap old new⟩, fun n => ?_, pairwise_table_between old new,
    fun c hc => table_mem_of_mem_between hc, fun old' new' hold hnew => ?_, ?_, ?_, fun old' h => ?_⟩
  · rw [List.pairwise_map]
    exact (pairwise_sortedNames _).imp Utf8.encode_lt_encode_iff.mpr
  · rw [ofName_eq]
    exact Option.length_toList_le
  · exact congrArg script (between_congr (fun n => (hnew.lastNamed?_eq n).symm)
      fun n _ => (hold.lastNamed?_eq n).symm)
  · exact congrArg script (between_congr (fun n => rfl) fun n _ => lastNamed?_unreplaced old n)
  · exact congrArg script (between_congr (fun n => lastNamed?_unreplaced new n) fun n _ => rfl)
  · exact congrArg script (between_congr (fun n => rfl) fun n hn => lastNamed?_congr_of_filter hn h)

/-- Neighbours that change places on both sides, next to a repeated name, and a table more on the old
side. -/
theorem between_local_shuffled :
    let a : Table := { name := "a" }
    let b : Table := { name := "b" }
    let c : Table := { name := "c", content := "CREATE TABLE `c` () ENGINE" }
    let again : Table := { name := "a", columns := [⟨"x", "int"⟩] }
    Rearranged Table.name [b, a] [a, b] ∧ Rearranged Table.name [a, c, again] [a, again, c] ∧
      migrationScript [a, b] [a, again, c] = migrationScript [b, a] [a, c, again] ∧
      [c, b, a].filter (·.name ∈ [a, again].map Table.name) =
        [b, a].filter (·.name ∈ [a, again].map Table.name) ∧
      migrationScript [c, b, a] [a, again] = migrationScript [b, a] [a, again] := by
  intro a b c again
  have hold : Rearranged Table.name [b, a] [a, b] := .swap (by decide) [] []
  have hnew : Rearranged Table.name [a, c, again] [a, again, c] := .swap (by decide) [a] []
  have hmore : [c, b, a].filter (·.name ∈ [a, again].map Table.name) =
      [b, a].filter (·.name ∈ [a, again].map Table.name) := by decide
  obtain ⟨-, -, -, -, hshuffled, -⟩ := between_local [b, a] [a, c, again]
  obtain ⟨-, -, -, -, -, -, -, hforeign⟩ := between_local [b, a] [a, again]
  exact ⟨hold, hnew, hshuffled _ _ hold hnew, hmore, hforeign _ hmore⟩

end Migration

end SchemaDrift
