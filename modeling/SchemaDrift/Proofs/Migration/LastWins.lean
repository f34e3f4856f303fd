import SchemaDrift.Migration.Compare
import Mathlib.Data.List.Find
import Mathlib.Data.List.Nodup

namespace SchemaDrift

variable {α : Type}

/-- The last element of that name: of elements with one name only the last one counts. -/
def lastNamed? (nameOf : α → Text) (xs : List α) (name : Text) : Option α :=
  xs.reverse.find? (nameOf · = name)

/-- The last element of each name, in ascending order of the names. -/
def latestBy (nameOf : α → Text) (xs : List α) : List α :=
  (sortedNames (xs.map nameOf)).filterMap (lastNamed? nameOf xs)

theorem lastTable?_eq (ts : List Table) (name : Text) :
    lastTable? ts name = lastNamed? Table.name ts name := rfl

theorem lastColumn?_eq (cs : List Column) (name : Text) :
    lastColumn? cs name = lastNamed? Column.name cs name := rfl

section Lookup

variable {nameOf : α → Text} {xs : List α} {x : α} {n m : Text}

theorem lastNamed?_eq_none_iff : lastNamed? nameOf xs n = none ↔ n ∉ xs.map nameOf := by
  simp [lastNamed?]

theorem name_of_lastNamed? (h : lastNamed? nameOf xs n = some x) : nameOf x = n := by
  simpa using List.find?_some h

theorem mem_of_lastNamed? (h : lastNamed? nameOf xs n = some x) : x ∈ xs :=
  List.mem_reverse.mp (List.mem_of_find?_eq_some h)

theorem exists_lastNamed? (h : n ∈ xs.map nameOf) : ∃ x, lastNamed? nameOf xs n = some x := by
  rw [← Option.ne_none_iff_exists', ne_eq, lastNamed?_eq_none_iff]
  exact not_not_intro h

theorem lastNamed?_concat :
    lastNamed? nameOf (xs ++ [x]) n = if nameOf x = n then some x else lastNamed? nameOf xs n := by
  rw [lastNamed?, List.reverse_append, List.reverse_singleton, List.singleton_append,
    List.find?_cons]
  split <;> simp_all [lastNamed?]

theorem lastNamed?_cons :
    lastNamed? nameOf (x :: xs) n =
      (lastNamed? nameOf xs n).or (if nameOf x = n then some x else none) := by
  rw [lastNamed?, List.reverse_cons, List.find?_append, List.find?_singleton]
  simp [lastNamed?]

/-- A look-up sees nothing but the elements of its name. -/
theorem lastNamed?_eq_getLast?_filter :
    lastNamed? nameOf xs n = (xs.filter (nameOf · = n)).getLast? :=
  List.getLast?_filter.symm

theorem lastNamed?_map {g : α → α} (hg : ∀ y ∈ xs, nameOf (g y) = nameOf y) :
    lastNamed? nameOf (xs.map g) n = (lastNamed? nameOf xs n).map g := by
  rw [lastNamed?, ← List.map_reverse, List.find?_map, lastNamed?]
  congr 1
  apply List.find?_congr
  intro y hy
  simp [hg y (List.mem_reverse.mp hy)]

theorem lastNamed?_filter_ne :
    lastNamed? nameOf (xs.filter (nameOf · ≠ m)) n =
      if n = m then none else lastNamed? nameOf xs n := by
  rw [lastNamed?, ← List.filter_reverse, List.find?_filter]
  split
  next h =>
    subst h
    simp [List.find?_eq_none]
  next h =>
    apply List.find?_congr
    intro y _
    by_cases hy : nameOf y = n <;> simp [hy, h]

/-- Where no name repeats, every element is the last one of its name. -/
theorem lastNamed?_eq_some_iff (hn : (xs.map nameOf).Nodup) :
    lastNamed? nameOf xs n = some x ↔ x ∈ xs ∧ nameOf x = n := by
  refine ⟨fun h => ⟨mem_of_lastNamed? h, name_of_lastNamed? h⟩, ?_⟩
  rintro ⟨hx, rfl⟩
  obtain ⟨y, hy⟩ := exists_lastNamed? (List.mem_map_of_mem (f := nameOf) hx)
  rw [hy, List.inj_on_of_nodup_map hn (mem_of_lastNamed? hy) hx (name_of_lastNamed? hy)]

end Lookup

section Latest

variable {nameOf : α → Text} {xs : List α} {x : α} {n : Text}

theorem nodup_of_pairwise_lt {names : List Text} (h : names.Pairwise (· < ·)) : names.Nodup := by
  refine h.imp ?_
  rintro a b hlt rfl
  exact List.lt_irrefl a hlt

theorem nodup_sortedNames (names : List Text) : (sortedNames names).Nodup :=
  nodup_of_pairwise_lt (pairwise_sortedNames names)

/-- Lists with the same names have them in the same order when these are sorted. -/
theorem sortedNames_congr {names others : List Text} (h : ∀ n, n ∈ names ↔ n ∈ others) :
    sortedNames names = sortedNames others := by
  have hperm : (sortedNames names).Perm (sortedNames others) := by
    rw [List.perm_ext_iff_of_nodup (nodup_sortedNames names) (nodup_sortedNames others)]
    intro n
    rw [mem_sortedNames, mem_sortedNames, h]
  exact hperm.eq_of_pairwise (fun _ _ _ _ hab hba => absurd hba (List.lt_asymm hab))
    (pairwise_sortedNames names) (pairwise_sortedNames others)

theorem mem_latestBy : x ∈ latestBy nameOf xs ↔ lastNamed? nameOf xs (nameOf x) = some x := by
  rw [latestBy, List.mem_filterMap]
  constructor
  · rintro ⟨n, -, h⟩
    rwa [name_of_lastNamed? h]
  · intro h
    exact ⟨nameOf x, mem_sortedNames.mpr (List.mem_map_of_mem (mem_of_lastNamed? h)), h⟩

theorem map_name_latestBy : (latestBy nameOf xs).map nameOf = sortedNames (xs.map nameOf) := by
  have hsome : ∀ n ∈ sortedNames (xs.map nameOf),
      (lastNamed? nameOf xs n).map nameOf = some n := by
    intro n hn
    obtain ⟨x, hx⟩ := exists_lastNamed? (mem_sortedNames.mp hn)
    rw [hx, Option.map_some, name_of_lastNamed? hx]
  rw [latestBy, List.map_filterMap, List.filterMap_congr hsome, List.filterMap_some]

/-- Collapsing a list to the last element of each name changes no lookup. -/
@[simp] theorem lastNamed?_latestBy :
    lastNamed? nameOf (latestBy nameOf xs) n = lastNamed? nameOf xs n := by
  have hn : ((latestBy nameOf xs).map nameOf).Nodup := map_name_latestBy ▸ nodup_sortedNames _
  ext x
  rw [lastNamed?_eq_some_iff hn, mem_latestBy]
  constructor
  · rintro ⟨h, rfl⟩
    exact h
  · intro h
    rw [name_of_lastNamed? h]
    exact ⟨h, rfl⟩

end Latest

/-- A run over distinct names in which the step for a name settles what is seen under that name and
leaves what is seen under the others: it gets to its end, and every name is settled. -/
theorem exists_foldlM_settling {σ γ β : Type} (step : σ → γ → Option σ) (view : σ → Text → β)
    (start : Text → β) (Settled : Text → β → Prop) (Kept : σ → Prop) {clause? : Text → Option γ}
    (skip : ∀ n, clause? n = none → Settled n (start n))
    (take : ∀ n c s, clause? n = some c → Kept s → view s n = start n →
      ∃ s', step s c = some s' ∧ Kept s' ∧ Settled n (view s' n) ∧
        ∀ m, m ≠ n → view s' m = view s m)
    {names : List Text} (hn : names.Nodup) {s : σ} (hk : Kept s)
    (hs : ∀ n ∈ names, view s n = start n) :
    ∃ s', (names.filterMap clause?).foldlM step s = some s' ∧ Kept s' ∧
      (∀ n ∈ names, Settled n (view s' n)) ∧ ∀ n, n ∉ names → view s' n = view s n := by
  induction names generalizing s with
  | nil => exact ⟨s, rfl, hk, by simp, fun _ _ => rfl⟩
  | cons n names ih =>
    obtain ⟨hnot, hn⟩ := List.nodup_cons.mp hn
    have hne : ∀ m ∈ names, m ≠ n := fun m hm he => hnot (he ▸ hm)
    cases hc : clause? n with
    | none =>
      obtain ⟨s', hrun, hk', hset, hsame⟩ := ih hn hk fun m hm => hs m (List.mem_cons_of_mem _ hm)
      refine ⟨s', by rwa [List.filterMap_cons_none hc], hk', ?_, ?_⟩
      · intro m hm
        rcases List.mem_cons.mp hm with rfl | hm
        · rw [hsame m hnot, hs m List.mem_cons_self]
          exact skip m hc
        · exact hset m hm
      · intro m hm
        exact hsame m fun h => hm (List.mem_cons_of_mem _ h)
    | some c =>
      obtain ⟨s₁, hstep, hk₁, hset₁, hsame₁⟩ := take n c s hc hk (hs n List.mem_cons_self)
      have hs₁ : ∀ m ∈ names, view s₁ m = start m := by
        intro m hm
        rw [hsame₁ m (hne m hm), hs m (List.mem_cons_of_mem _ hm)]
      obtain ⟨s', hrun, hk', hset, hsame⟩ := ih hn hk₁ hs₁
      refine ⟨s', ?_, hk', ?_, ?_⟩
      · rw [List.filterMap_cons_some hc, List.foldlM_cons, hstep]
        exact hrun
      · intro m hm
        rcases List.mem_cons.mp hm with rfl | hm
        · rw [hsame m hnot]
          exact hset₁
        · exact hset m hm
      · intro m hm
        rw [hsame m fun h => hm (List.mem_cons_of_mem _ h)]
        exact hsame₁ m fun h => hm (h ▸ List.mem_cons_self)

end SchemaDrift
