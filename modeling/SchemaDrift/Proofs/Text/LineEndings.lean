import SchemaDrift.Proofs.Text.Pieces
import SchemaDrift.Proofs.Text.Search

namespace SchemaDrift.Text

/-- A text with a carriage return in front of every line feed. -/
def withReturns (t : Text) : Text := t.flatMap fun c => if c = '\n' then ['\r', '\n'] else [c]

/-- Whether a text holds nothing of a line ending. -/
def FreeOfEndings (t : Text) : Prop := '\n' ∉ t ∧ '\r' ∉ t

instance (t : Text) : Decidable (FreeOfEndings t) := inferInstanceAs (Decidable ('\n' ∉ t ∧ '\r' ∉ t))

section Writing

variable {a b t : Text} {c : Char}

@[simp] theorem withReturns_nil : withReturns [] = [] := rfl

theorem withReturns_break (t : Text) : withReturns ('\n' :: t) = '\r' :: '\n' :: withReturns t := rfl

theorem withReturns_cons (h : c ≠ '\n') (t : Text) : withReturns (c :: t) = c :: withReturns t := by
  rw [withReturns, List.flatMap_cons, if_neg h]
  rfl

theorem withReturns_append (a b : Text) : withReturns (a ++ b) = withReturns a ++ withReturns b :=
  List.flatMap_append

theorem withReturns_of_notMem (h : '\n' ∉ t) : withReturns t = t := by
  induction t with
  | nil => rfl
  | cons c t ih =>
    obtain ⟨hc, ht⟩ := List.ne_and_not_mem_of_not_mem_cons h
    rw [withReturns_cons hc.symm, ih ht]

theorem dropWhile_withReturns {p : Char → Bool} (hn : p '\n') (hr : p '\r') (t : Text) :
    (withReturns t).dropWhile p = withReturns (t.dropWhile p) := by
  induction t with
  | nil => rfl
  | cons c t ih =>
    by_cases hc : c = '\n'
    · subst hc
      rw [withReturns_break, List.dropWhile_cons_of_pos hr, List.dropWhile_cons_of_pos hn,
        List.dropWhile_cons_of_pos hn, ih]
    · rw [withReturns_cons hc]
      by_cases hp : p c
      · rw [List.dropWhile_cons_of_pos hp, List.dropWhile_cons_of_pos hp, ih]
      · rw [List.dropWhile_cons_of_neg hp, List.dropWhile_cons_of_neg hp, withReturns_cons hc]

end Writing

section Searching

variable {needle t : Text} {c : Char}

theorem not_prefix_cons (hne : needle ≠ []) (hc : c ∉ needle) (t : Text) : ¬ needle <+: c :: t := by
  obtain ⟨d, needle, rfl⟩ := List.exists_cons_of_ne_nil hne
  intro h
  rw [(List.cons_prefix_cons.mp h).1] at hc
  exact hc List.mem_cons_self

theorem prefix_withReturns_iff (hu : FreeOfEndings needle) : needle <+: withReturns t ↔ needle <+: t := by
  induction needle generalizing t with
  | nil => simp
  | cons d needle ih =>
    obtain ⟨hn, hr⟩ := hu
    cases t with
    | nil => rw [withReturns_nil]
    | cons c t =>
      by_cases hc : c = '\n'
      · subst hc
        rw [withReturns_break]
        exact iff_of_false (not_prefix_cons (List.cons_ne_nil _ _) hr _)
          (not_prefix_cons (List.cons_ne_nil _ _) hn _)
      · rw [withReturns_cons hc, List.cons_prefix_cons, List.cons_prefix_cons,
          ih ⟨fun h => hn (List.mem_cons_of_mem d h), fun h => hr (List.mem_cons_of_mem d h)⟩]

/-- What is looked for is found at the same place, whichever way lines end. -/
theorem fromFirst?_withReturns (hne : needle ≠ []) (hu : FreeOfEndings needle) (t : Text) :
    fromFirst? needle (withReturns t) = (fromFirst? needle t).map withReturns := by
  have hpass {c : Char} {t : Text} (h : ¬ needle <+: c :: t) :
      fromFirst? needle (c :: t) = fromFirst? needle t := by
    rw [fromFirst?, if_neg fun hp => h (List.isPrefixOf_iff_prefix.mp hp)]
  induction t with
  | nil => simp [fromFirst?, hne]
  | cons c t ih =>
    by_cases hp : needle <+: c :: t
    · rw [ fromFirst?_of_prefix hp, fromFirst?_of_prefix ((prefix_withReturns_iff hu).mpr hp)]
      rfl
    · rw [hpass hp, ← ih]
      by_cases hc : c = '\n'
      · subst hc
        rw [withReturns_break, hpass (not_prefix_cons hne hu.2 _), hpass (not_prefix_cons hne hu.1 _)]
      · rw [← prefix_withReturns_iff hu, withReturns_cons hc] at hp
        rw [withReturns_cons hc, hpass hp]

end Searching

section Lines

/-- Pieces with a carriage return behind each but the last. -/
def returned (pieces : List Text) : List Text :=
  pieces.dropLast.map (· ++ ['\r']) ++ pieces.getLast?.toList

theorem returned_concat (front : List Text) (last : Text) :
    returned (front ++ [last]) = front.map (· ++ ['\r']) ++ [last] := by
  rw [returned, List.dropLast_concat, List.getLast?_concat]
  rfl

theorem returned_cons {pieces : List Text} (h : pieces ≠ []) (p : Text) :
    returned (p :: pieces) = (p ++ ['\r']) :: returned pieces := by
  obtain ⟨q, pieces, rfl⟩ := List.exists_cons_of_ne_nil h
  rfl

theorem returned_modifyHead (c : Char) (pieces : List Text) :
    returned (pieces.modifyHead (List.cons c)) = (returned pieces).modifyHead (List.cons c) := by
  rcases pieces with _ | ⟨p, _ | ⟨q, pieces⟩⟩ <;> rfl

theorem splitOn_withReturns (t : Text) :
    (withReturns t).splitOn '\n' = returned (t.splitOn '\n') := by
  have hbreak (t : Text) : ('\n' :: t).splitOn '\n' = [] :: t.splitOn '\n' := by
    rw [List.splitOn_cons_eq_if_modifyHead, if_pos (by decide)]
  have hcons {c : Char} (hc : c ≠ '\n') (t : Text) :
      (c :: t).splitOn '\n' = (t.splitOn '\n').modifyHead (List.cons c) := by
    rw [List.splitOn_cons_eq_if_modifyHead, if_neg (by simpa using hc)]
  induction t with
  | nil => rfl
  | cons c t ih =>
    by_cases hc : c = '\n'
    · subst hc
      rw [withReturns_break, hcons (by decide), hbreak, hbreak,
        returned_cons (List.splitOn_ne_nil _ _), ih]
      rfl
    · rw [withReturns_cons hc, hcons hc, hcons hc, ih, returned_modifyHead]

theorem endingReturnDropped_concat (p : Text) : lines.endingReturnDropped (p ++ ['\r']) = p := by
  rw [lines.endingReturnDropped, if_pos List.getLast?_concat, List.dropLast_concat]

/-- The lines of a text without carriage returns are the same when every line feed gets one. -/
theorem lines_withReturns {t : Text} (h : '\r' ∉ t) : lines (withReturns t) = lines t := by
  obtain ⟨front, last, hpieces⟩ :=
    (List.eq_nil_or_concat (t.splitOn '\n')).resolve_left (List.splitOn_ne_nil '\n' t)
  rw [List.concat_eq_append] at hpieces
  have hkept : (front.map (· ++ ['\r'])).map lines.endingReturnDropped =
      front.map lines.endingReturnDropped := by
    rw [List.map_map]
    apply List.map_congr_left
    intro p hp
    have hp' : p ∈ t.splitOn '\n' := hpieces ▸ List.mem_append_left _ hp
    have hlast : p.getLast? ≠ some '\r' := fun hl =>
      h (mem_of_mem_splitOn hp' (List.mem_of_getLast? hl))
    rw [Function.comp_apply, endingReturnDropped_concat, endingReturnDropped_of_getLast? hlast]
  rw [lines, lines, splitOn_withReturns, hpieces, returned_concat, List.dropLast_concat, List.dropLast_concat,
    List.getLast?_concat, List.getLast?_concat, hkept]

end Lines

end SchemaDrift.Text
