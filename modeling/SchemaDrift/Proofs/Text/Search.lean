import SchemaDrift.Text.Basic
import Mathlib.Data.List.Infix

namespace SchemaDrift.Text

variable {needle a s t u : Text}

/-- No occurrence of `needle` begins in `a` when `s` follows. -/
def Clear (needle a s : Text) : Prop := ∀ p q, a = p ++ q → q ≠ [] → ¬ needle <+: q ++ s

theorem clear_nil : Clear needle [] s := by
  intro p q h hq
  exact absurd (List.append_eq_nil_iff.mp h.symm).2 hq

theorem clear_cons {c : Char} :
    Clear needle (c :: a) s ↔ ¬ needle <+: c :: (a ++ s) ∧ Clear needle a s := by
  constructor
  · intro h
    refine ⟨h [] (c :: a) rfl (List.cons_ne_nil c a), fun p q hpq hq => ?_⟩
    exact h (c :: p) q (by rw [hpq, List.cons_append]) hq
  · rintro ⟨hc, ha⟩ p q hpq hq
    rcases List.cons_eq_append_iff.mp hpq with ⟨rfl, rfl⟩ | ⟨p', rfl, hp'⟩
    · exact hc
    · exact ha p' q hp' hq

/-- What follows matters the less the shorter it is. -/
theorem Clear.of_append (h : Clear needle a (s ++ u)) : Clear needle a s := by
  intro p q hpq hq hn
  apply h p q hpq hq
  rw [← List.append_assoc]
  exact hn.trans (List.prefix_append _ _)

/-- Nothing that follows a whole occurrence makes one begin earlier. -/
theorem Clear.append_right (h : Clear needle a s) (hs : needle <+: s) (u : Text) :
    Clear needle a (s ++ u) := by
  intro p q hpq hq hn
  apply h p q hpq hq
  have hle : needle.length ≤ (q ++ s).length := by
    rw [List.length_append]
    exact hs.length_le.trans (Nat.le_add_left _ _)
  rw [← List.append_assoc] at hn
  exact List.prefix_of_prefix_length_le hn (List.prefix_append _ _) hle

/-- An occurrence that begins in `a` and is not all of it ends with a start of `s`. -/
theorem exists_seam_of_not_clear (ha : ¬ needle <:+: a) (h : ¬ Clear needle a s) :
    ∃ p q, p ≠ [] ∧ q ≠ [] ∧ needle = p ++ q ∧ p <:+ a ∧ q <+: s := by
  simp only [Clear, not_forall, not_not] at h
  obtain ⟨x, p, rfl, hp, hn⟩ := h
  rcases List.prefix_or_prefix_of_prefix hn (List.prefix_append p s) with hin | ⟨q, rfl⟩
  · exact absurd (hin.isInfix.trans (List.suffix_append x p).isInfix) ha
  · have hq : q ≠ [] := by
      rintro rfl
      rw [List.append_nil] at ha
      exact ha (List.suffix_append x p).isInfix
    exact ⟨p, q, hp, hq, rfl, List.suffix_append x p, (List.prefix_append_right_inj p).mp hn⟩

/-- A follower can only complete an occurrence by a character that stands inside `needle`. -/
theorem clear_of_head (ha : ¬ needle <:+: a) (hs : ∀ c ∈ s.head?, c ∉ needle.tail) :
    Clear needle a s := by
  by_contra h
  obtain ⟨p, q, hp, hq, rfl, -, hqs⟩ := exists_seam_of_not_clear ha h
  obtain ⟨c, q, rfl⟩ := List.exists_cons_of_ne_nil hq
  obtain ⟨s', rfl⟩ := hqs
  apply hs c rfl
  rw [List.tail_append_of_ne_nil hp]
  exact List.mem_append_right _ List.mem_cons_self

/-- A text whose last character is foreign to `needle` begins no occurrence, whatever follows. -/
theorem clear_of_getLast (ha : ¬ needle <:+: a) (hl : ∀ c ∈ a.getLast?, c ∉ needle) :
    Clear needle a s := by
  by_contra h
  obtain ⟨p, q, hp, -, rfl, ⟨x, rfl⟩, -⟩ := exists_seam_of_not_clear ha h
  apply hl (p.getLast hp)
  · rw [List.getLast?_append_of_ne_nil x hp, List.getLast?_eq_some_getLast hp]
    rfl
  · exact List.mem_append_left _ (List.getLast_mem hp)

section FromFirst

theorem fromFirst?_of_prefix (h : needle <+: s) : fromFirst? needle s = some s := by
  cases s with
  | nil => rw [fromFirst?, if_pos (List.prefix_nil.mp h)]
  | cons c r => rw [fromFirst?, if_pos (List.isPrefixOf_iff_prefix.mpr h)]

theorem fromFirst?_append_of_clear (h : Clear needle a s) :
    fromFirst? needle (a ++ s) = fromFirst? needle s := by
  induction a with
  | nil => rfl
  | cons c a ih =>
    rw [clear_cons] at h
    rw [List.cons_append, fromFirst?, if_neg fun hp => h.1 (List.isPrefixOf_iff_prefix.mp hp)]
    exact ih h.2

theorem fromFirst?_eq_some_iff :
    fromFirst? needle t = some s ↔ ∃ a, t = a ++ s ∧ Clear needle a s ∧ needle <+: s := by
  constructor
  · intro h
    fun_induction fromFirst? needle t with
    | case1 hn =>
      cases h
      exact ⟨[], rfl, clear_nil, by rw [hn]⟩
    | case2 => cases h
    | case3 c r hp =>
      cases h
      exact ⟨[], rfl, clear_nil, List.isPrefixOf_iff_prefix.mp hp⟩
    | case4 c r hp ih =>
      obtain ⟨a, rfl, ha, hs⟩ := ih h
      exact ⟨c :: a, rfl, clear_cons.mpr ⟨fun hn => hp (List.isPrefixOf_iff_prefix.mpr hn), ha⟩, hs⟩
  · rintro ⟨a, rfl, ha, hs⟩
    rw [fromFirst?_append_of_clear ha, fromFirst?_of_prefix hs]

theorem fromFirst?_append (h : fromFirst? needle t = some s) (u : Text) :
    fromFirst? needle (t ++ u) = some (s ++ u) := by
  obtain ⟨a, rfl, ha, hs⟩ := fromFirst?_eq_some_iff.mp h
  rw [fromFirst?_eq_some_iff]
  exact ⟨a, List.append_assoc a s u, ha.append_right hs u, hs.trans (List.prefix_append s u)⟩

theorem fromFirst?_eq_none_iff : fromFirst? needle t = none ↔ ¬ needle <:+: t := by
  constructor
  · intro h
    fun_induction fromFirst? needle t with
    | case1 => cases h
    | case2 hn => exact fun hi => hn (List.infix_nil.mp hi)
    | case3 => cases h
    | case4 c r hp ih =>
      rw [List.infix_cons_iff, not_or]
      exact ⟨fun hn => hp (List.isPrefixOf_iff_prefix.mpr hn), ih h⟩
  · intro h
    cases hs : fromFirst? needle t with
    | none => rfl
    | some s =>
      obtain ⟨a, rfl, -, hn⟩ := fromFirst?_eq_some_iff.mp hs
      exact absurd (hn.isInfix.trans (List.suffix_append a s).isInfix) h

/-- What stands on both sides of a character that is none of its own stands on one of them. -/
theorem infix_append_cons_iff {c : Char} (hc : c ∉ needle) :
    needle <:+: a ++ c :: s ↔ needle <:+: a ∨ needle <:+: s := by
  constructor
  · intro h
    by_contra hnot
    rw [not_or] at hnot
    obtain ⟨ha, hs⟩ := hnot
    have hclear : Clear needle a (c :: s) := by
      refine clear_of_head ha ?_
      rintro d ⟨⟩ hd
      exact hc (List.mem_of_mem_tail hd)
    refine fromFirst?_eq_none_iff.mp ?_ h
    rw [fromFirst?_append_of_clear hclear, fromFirst?_eq_none_iff, List.infix_cons_iff, not_or]
    refine ⟨fun hp => ?_, hs⟩
    cases needle with
    | nil => exact ha List.nil_infix
    | cons d n =>
      obtain ⟨rfl, -⟩ := List.cons_prefix_cons.mp hp
      exact hc List.mem_cons_self
  · rintro (h | h)
    · exact h.trans (List.prefix_append a _).isInfix
    · exact h.trans ((List.suffix_cons c s).trans (List.suffix_append a _)).isInfix

theorem infix_of_infix_append {c : Char} {n : Text} (hc : c ∉ a) (h : c :: n <:+: a ++ s) : c :: n <:+: s := by
  induction a with
  | nil => exact h
  | cons d a ih =>
    obtain ⟨hd, ha⟩ := List.ne_and_not_mem_of_not_mem_cons hc
    rcases List.infix_cons_iff.mp h with hp | h
    · exact absurd (List.cons_prefix_cons.mp hp).1 hd
    · exact ih ha h

theorem not_infix_intercalate {c : Char} {ts : List Text} (hne : needle ≠ []) (hc : c ∉ needle)
    (h : ∀ t ∈ ts, ¬ needle <:+: t) : ¬ needle <:+: List.intercalate [c] ts := by
  induction ts with
  | nil => exact fun hi => hne (List.infix_nil.mp hi)
  | cons t ts ih =>
    have ht := h t List.mem_cons_self
    cases ts with
    | nil => rwa [List.intercalate_singleton]
    | cons u us =>
      rw [List.intercalate_cons_cons, List.append_assoc, List.singleton_append, infix_append_cons_iff hc, not_or]
      exact ⟨ht, ih fun v hv => h v (List.mem_cons_of_mem t hv)⟩

end FromFirst

section Positions

theorem clear_iff_drop : Clear needle a s ↔ ∀ i < a.length, ¬ needle <+: (a ++ s).drop i := by
  constructor
  · intro h i hi hn
    rw [List.drop_append_of_le_length hi.le] at hn
    refine h (a.take i) (a.drop i) (List.take_append_drop i a).symm (fun hnil => ?_) hn
    exact absurd (List.drop_eq_nil_iff.mp hnil) (not_le.mpr hi)
  · rintro h p q rfl hq hn
    have hlt : p.length < (p ++ q).length := by
      rw [List.length_append]
      exact Nat.lt_add_of_pos_right (List.length_pos_of_ne_nil hq)
    apply h p.length hlt
    rwa [List.append_assoc, List.drop_left]

theorem infix_iff_exists_drop : needle <:+: t ↔ ∃ i, needle <+: t.drop i := by
  constructor
  · rintro ⟨a, b, rfl⟩
    refine ⟨a.length, ?_⟩
    rw [List.append_assoc, List.drop_left]
    exact List.prefix_append needle b
  · rintro ⟨i, h⟩
    exact h.isInfix.trans (List.drop_suffix i t).isInfix

/-- What is found is the rest from the first position at which `needle` stands. -/
theorem fromFirst?_eq_some_iff_drop (hne : needle ≠ []) :
    fromFirst? needle t = some s ↔
      ∃ k, s = t.drop k ∧ needle <+: t.drop k ∧ ∀ i < k, ¬ needle <+: t.drop i := by
  rw [fromFirst?_eq_some_iff]
  constructor
  · rintro ⟨a, rfl, ha, hn⟩
    refine ⟨a.length, List.drop_left.symm, ?_, clear_iff_drop.mp ha⟩
    rwa [List.drop_left]
  · rintro ⟨k, rfl, hn, hfirst⟩
    have hk : k ≤ t.length := by
      by_contra hk
      rw [List.drop_eq_nil_of_le (not_le.mp hk).le, List.prefix_nil] at hn
      exact hne hn
    refine ⟨t.take k, (List.take_append_drop k t).symm, ?_, hn⟩
    rw [clear_iff_drop, List.take_append_drop, List.length_take_of_le hk]
    exact hfirst

/-- What stands at a position is found there or earlier. -/
theorem exists_fromFirst?_of_prefix_drop {i : Nat} (hne : needle ≠ []) (h : needle <+: t.drop i) :
    ∃ k ≤ i, fromFirst? needle t = some (t.drop k) := by
  obtain ⟨s, hs⟩ := Option.ne_none_iff_exists'.mp fun hnone =>
    fromFirst?_eq_none_iff.mp hnone (infix_iff_exists_drop.mpr ⟨i, h⟩)
  obtain ⟨k, rfl, -, hfirst⟩ := (fromFirst?_eq_some_iff_drop hne).mp hs
  exact ⟨k, not_lt.mp fun hik => hfirst i hik h, hs⟩

end Positions

end SchemaDrift.Text
