import Mathlib.Data.List.Basic
import Mathlib.Data.Nat.Init

namespace SchemaDrift

variable {α : Type} [BEq α] [LawfulBEq α]

/-- Which elements come first does not depend on those that a filter takes out. -/
theorem eraseDups_filter (p : α → Bool) (xs : List α) :
    (xs.filter p).eraseDups = xs.eraseDups.filter p := by
  induction hn : xs.length using Nat.strong_induction_on generalizing xs with
  | _ n ih =>
  cases xs with
  | nil => rfl
  | cons a xs =>
    have hlt : (xs.filter fun b => !b == a).length < n := by
      rw [← hn, List.length_cons]
      exact Nat.lt_succ_of_le (List.length_filter_le _ _)
    rw [List.eraseDups_cons, List.filter_cons, List.filter_cons, ← ih _ hlt _ rfl, List.filter_filter]
    by_cases ha : p a
    · rw [if_pos ha, if_pos ha, List.eraseDups_cons, List.filter_filter]
      simp only [Bool.and_comm]
    · rw [if_neg ha, if_neg ha]
      congr 1
      apply List.filter_congr
      intro b _
      by_cases hb : b = a
      · simp [hb, ha]
      · simp [hb]

/-- An element that comes again does not come first. -/
theorem eraseDups_append_cons {a : α} {xs : List α} (h : a ∈ xs) (ys : List α) :
    (xs ++ a :: ys).eraseDups = (xs ++ ys).eraseDups := by
  rw [List.eraseDups_append, List.eraseDups_append, List.removeAll, List.removeAll,
    List.filter_cons_of_neg (by simpa using h)]

/-- What comes first in a list comes in the order of its first places there. -/
theorem pairwise_idxOf_eraseDups (xs : List α) :
    xs.eraseDups.Pairwise fun a b => xs.idxOf a < xs.idxOf b := by
  induction xs with
  | nil => exact List.Pairwise.nil
  | cons a xs ih =>
    have hne {b : α} (hb : b ∈ xs.eraseDups.filter fun b => !b == a) : (a :: xs).idxOf b = xs.idxOf b + 1 := by
      refine List.idxOf_cons_ne xs ?_
      rintro rfl
      simp at hb
    rw [List.eraseDups_cons, eraseDups_filter]
    refine List.pairwise_cons.mpr ⟨fun b hb => ?_, (ih.filter _).imp_of_mem fun hb hc hlt => ?_⟩
    · rw [List.idxOf_cons_self, hne hb]
      exact Nat.succ_pos _
    · rw [hne hb, hne hc]
      exact Nat.succ_lt_succ hlt

end SchemaDrift
