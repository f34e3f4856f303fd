import SchemaDrift.Text.Basic

namespace SchemaDrift

/-- Inserts a name into an ascending list of names, unless it is there already. -/
def insertName (n : Text) : List Text → List Text
  | [] => [n]
  | m :: r => if n < m then n :: m :: r else if n = m then m :: r else m :: insertName n r

/-- The distinct names of a list in ascending order of their code points. -/
def sortedNames (names : List Text) : List Text := names.foldr insertName []

theorem mem_insertName {n m : Text} {names : List Text} :
    m ∈ insertName n names ↔ m = n ∨ m ∈ names := by
  induction names with
  | nil => simp [insertName]
  | cons k r ih =>
    unfold insertName
    split
    · simp
    · split
      next h => simp [h]
      next =>
        simp only [List.mem_cons, ih]
        exact or_left_comm

@[simp] theorem mem_sortedNames {m : Text} {names : List Text} :
    m ∈ sortedNames names ↔ m ∈ names := by
  induction names with
  | nil => simp [sortedNames]
  | cons n r ih =>
    rw [show sortedNames (n :: r) = insertName n (sortedNames r) from rfl, mem_insertName, ih,
      List.mem_cons]

theorem pairwise_insertName {n : Text} {names : List Text} (h : names.Pairwise (· < ·)) :
    (insertName n names).Pairwise (· < ·) := by
  induction names with
  | nil => simp [insertName]
  | cons k r ih =>
    rw [List.pairwise_cons] at h
    unfold insertName
    split
    next hlt =>
      refine List.pairwise_cons.mpr ⟨fun m hm => ?_, List.pairwise_cons.mpr h⟩
      rcases List.mem_cons.mp hm with rfl | hm
      · exact hlt
      · exact List.lt_trans hlt (h.1 m hm)
    next hlt =>
      split
      · exact List.pairwise_cons.mpr h
      next hne =>
        refine List.pairwise_cons.mpr ⟨fun m hm => ?_, ih h.2⟩
        rcases mem_insertName.mp hm with rfl | hm
        · rcases List.le_iff_lt_or_eq.mp (List.not_lt.mp hlt) with hl | rfl
          · exact hl
          · exact absurd rfl hne
        · exact h.1 m hm

/-- Every name comes once, and an earlier one is the smaller one. -/
theorem pairwise_sortedNames (names : List Text) : (sortedNames names).Pairwise (· < ·) := by
  induction names with
  | nil => exact List.Pairwise.nil
  | cons n r ih => exact pairwise_insertName ih

end SchemaDrift
