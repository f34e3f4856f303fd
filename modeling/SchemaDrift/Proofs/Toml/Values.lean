import SchemaDrift.Proofs.Toml.Number
import SchemaDrift.Proofs.Toml.Quoted

namespace SchemaDrift.Toml

variable {c : Char} {g r t w : Text}

/-! ### Comments and line ends -/

theorem IsBreak.ne_nil (hw : IsBreak w) : w ≠ [] := by
  rcases hw with rfl | rfl <;> exact List.cons_ne_nil _ _

theorem afterBreak?_append {b : Text} (hb : IsBreak b) (r : Text) : afterBreak? (b ++ r) = some r := by
  rcases hb with rfl | rfl <;> rfl

theorem afterComment?_of_head (h : r.head? ≠ some '#') : afterComment? r = some r := by
  unfold afterComment?
  split
  · exact absurd rfl h
  · rfl

/-- A comment goes on to the end of its line, or to the end of all. -/
theorem afterComment?_append (hc : IsComment w) (hr : r = [] ∨ (afterBreak? r).isSome) :
    afterComment? (w ++ r) = some r := by
  have hhead : ∀ c ∈ r.head?, ¬ isVisible c ∧ c ≠ '#' := by
    intro c hc
    rcases hr with rfl | hbreak
    · cases hc
    · unfold afterBreak? at hbreak
      split at hbreak
      · cases hc
        decide
      · cases hc
        decide
      · cases hbreak
  cases hc with
  | absent => exact afterComment?_of_head fun h => (hhead '#' h).2 rfl
  | present hw =>
    rw [List.cons_append, afterComment?, Text.dropWhile_append_of_head hw fun c hc => (hhead c hc).1]
    exact if_pos hr

/-- Whether a text ends, or goes on with what may stand behind a value. -/
def EndsValue (r : Text) : Prop := ∀ c ∈ r.head?, c ∈ [' ', '\t', '#', '\n', '\r', ',', ']']

theorem endsValue_cons (hc : c ∈ [' ', '\t', '#', '\n', '\r', ',', ']']) (r : Text) : EndsValue (c :: r) := by
  rintro d ⟨⟩
  exact hc

theorem IsGap.endsValue (hg : IsGap g) (hr : EndsValue r) : EndsValue (g ++ r) := by
  cases g with
  | nil => exact hr
  | cons c g =>
    refine endsValue_cons ?_ (g ++ r)
    rcases isSpace_iff.mp (hg c List.mem_cons_self) with rfl | rfl <;> decide

theorem IsComment.endsValue (hw : IsComment w) (hr : EndsValue r) : EndsValue (w ++ r) := by
  cases hw with
  | absent => exact hr
  | present => exact endsValue_cons (by decide) _

theorem IsBreak.endsValue (hw : IsBreak w) (r : Text) : EndsValue (w ++ r) := by
  rcases hw with rfl | rfl <;> exact endsValue_cons (by decide) _

theorem IsLineEnd.endsValue (hw : IsLineEnd w) (r : Text) : EndsValue (w ++ r) := by
  cases hw with
  | mk hg hc hb =>
    rw [List.append_assoc, List.append_assoc]
    exact hg.endsValue (hc.endsValue (hb.endsValue r))

theorem IsLineEnd.ne_nil (hw : IsLineEnd w) : w ≠ [] := by
  cases hw with
  | mk hg hc hb => exact List.append_ne_nil_of_right_ne_nil _ (List.append_ne_nil_of_right_ne_nil _ hb.ne_nil)

theorem IsFree.endsValue (hw : IsFree w) (hr : EndsValue r) : EndsValue (w ++ r) := by
  cases hw with
  | gap hg => exact hg.endsValue hr
  | line he hf =>
    rw [List.append_assoc]
    exact he.endsValue _

theorem skipSpaces_comment {c b : Text} (hg : IsGap g) (hc : IsComment c) (hb : IsBreak b) (r : Text) :
    skipSpaces (g ++ (c ++ b) ++ r) = c ++ (b ++ r) := by
  rw [List.append_assoc, List.append_assoc]
  refine skipSpaces_append hg ?_
  cases hc with
  | absent => rcases hb with rfl | rfl <;> (rintro d ⟨⟩; decide)
  | present =>
    rintro d ⟨⟩
    decide

theorem afterComment?_lineEnd {c b : Text} (hg : IsGap g) (hc : IsComment c) (hb : IsBreak b) (r : Text) :
    afterComment? (skipSpaces (g ++ (c ++ b) ++ r)) = some (b ++ r) := by
  rw [skipSpaces_comment hg hc hb]
  exact afterComment?_append hc (.inr (by rw [afterBreak?_append hb]; rfl))

theorem lineEnd?_append (hw : IsLineEnd w) (r : Text) : lineEnd? (w ++ r) = some r := by
  cases hw with
  | mk hg hc hb =>
    rw [lineEnd?, afterComment?_lineEnd hg hc hb, Option.bind_eq_bind, Option.bind_some,
      if_neg (List.append_ne_nil_of_left_ne_nil hb.ne_nil r), afterBreak?_append hb]

/-- Lines without a sign are passed over up to the next sign. -/
theorem skipFree_append (hw : IsFree w) (hc : c ∈ ['"', ',', ']']) {fuel : Nat} (hfuel : w.length < fuel) (r : Text) :
    skipFree fuel (w ++ c :: r) = some (c :: r) := by
  obtain ⟨hspace, hcomment, hbreak⟩ : ¬ isSpace c ∧ c ≠ '#' ∧ afterBreak? (c :: r) = none := by
    simp only [List.mem_cons, List.not_mem_nil, or_false] at hc
    rcases hc with rfl | rfl | rfl <;> exact ⟨by decide, by decide, rfl⟩
  induction hw generalizing fuel with
  | gap hg =>
    obtain ⟨fuel, rfl⟩ := Nat.exists_eq_add_one_of_ne_zero (Nat.ne_zero_of_lt hfuel)
    have hsign : afterComment? (c :: r) = some (c :: r) := afterComment?_of_head fun h => hcomment (Option.some.inj h)
    rw [skipFree, skipSpaces_cons hg hspace, hsign, Option.bind_eq_bind, Option.bind_some, hbreak]
  | line he hf ih =>
    obtain ⟨fuel, rfl⟩ := Nat.exists_eq_add_one_of_ne_zero (Nat.ne_zero_of_lt hfuel)
    cases he with
    | mk hg hcomment hb =>
      rw [List.append_assoc, skipFree, afterComment?_lineEnd hg hcomment hb, Option.bind_eq_bind, Option.bind_some,
        afterBreak?_append hb]
      have hpos : 0 < _ := List.length_pos_iff.mpr hb.ne_nil
      refine ih ?_
      simp only [List.length_append] at hfuel
      omega

/-! ### Values -/

theorem EndsValue.endsNumber (hr : EndsValue r) : EndsNumber r := by
  intro c hc
  have hmem := hr c hc
  simp only [List.mem_cons, List.not_mem_nil, or_false] at hmem
  rcases hmem with rfl | rfl | rfl | rfl | rfl | rfl | rfl <;> decide

theorem scalar?_text (hw : TextWriting t w) (hr : EndsValue r) :
    scalar? ('"' :: (w ++ '"' :: r)) = some (.text t, r) := by
  have hmark : r.head? ≠ some '"' := fun h => absurd (hr '"' h) (by decide)
  rw [scalar?, quoted?_append hw hmark]
  rfl

theorem scalar?_number (p : Port) (hr : EndsValue r) : scalar? (p.text ++ r) = some (.integer p.val, r) := by
  have hnumber := number?_append p hr.endsNumber
  obtain ⟨c, t, ht, hc⟩ := exists_ofNat_eq_cons p.val
  change p.text = c :: t at ht
  rw [ht, List.cons_append] at hnumber ⊢
  have htrue : Text.dropStart? "true" (c :: (t ++ r)) = none := dropStart?_of_digit hc (by decide) "rue" (t ++ r)
  have hfalse : Text.dropStart? "false" (c :: (t ++ r)) = none := dropStart?_of_digit hc (by decide) "alse" (t ++ r)
  unfold scalar?
  split
  case h_1 h =>
    obtain ⟨rfl, -⟩ := List.cons.inj h
    exact absurd hc (by decide)
  case h_2 h =>
    obtain ⟨rfl, -⟩ := List.cons.inj h
    exact absurd hc (by decide)
  case h_3 =>
    rw [htrue, hfalse]
    exact hnumber

theorem value?_of_head {depth : Nat} (hlist : c ≠ '[') (htable : c ≠ '\x7b') (t : Text) :
    value? depth (c :: t) = scalar? (c :: t) := by
  cases depth with
  | zero => rfl
  | succ depth => simp [value?, hlist, htable]

/-- An item is read with what may stand in front of it and behind it, up to the next sign. -/
theorem exists_item {f : Text} (hf : IsFree f) (hw : TextWriting t w) (hg : IsFree g) (hc : c ∈ ['"', ',', ']'])
    (hend : EndsValue (c :: r)) (depth : Nat) :
    ∃ s u, skipFree ((f ++ '"' :: (w ++ '"' :: (g ++ c :: r))).length + 1) (f ++ '"' :: (w ++ '"' :: (g ++ c :: r))) =
      some ('"' :: s) ∧ value? depth ('"' :: s) = some (.text t, u) ∧ skipFree (u.length + 1) u = some (c :: r) := by
  refine ⟨w ++ '"' :: (g ++ c :: r), g ++ c :: r, skipFree_append hf (by decide) ?_ _, ?_, skipFree_append hg hc ?_ r⟩
  · rw [List.length_append]
    omega
  · rw [value?_of_head (by decide) (by decide), scalar?_text hw (hg.endsValue hend)]
  · rw [List.length_append]
    omega

theorem arrayItems_append {ts : List Text} (hw : ItemsWriting ts w) {fuel : Nat} (hfuel : w.length < fuel) (depth : Nat)
    (r : Text) : arrayItems (value? depth) fuel (w ++ r) = some (ts.map .text, r) := by
  induction hw generalizing fuel with
  | nil hf =>
    obtain ⟨fuel, rfl⟩ := Nat.exists_eq_add_one_of_ne_zero (Nat.ne_zero_of_lt hfuel)
    rw [List.append_assoc, List.singleton_append, arrayItems,
      skipFree_append hf (by decide) (by rw [List.length_append]; omega)]
    rfl
  | last hf hw hg =>
    obtain ⟨fuel, rfl⟩ := Nat.exists_eq_add_one_of_ne_zero (Nat.ne_zero_of_lt hfuel)
    obtain ⟨s, u, hskip, hitem, hnext⟩ :=
      exists_item (c := ']') hf hw hg (by decide) (endsValue_cons (by decide) r) depth
    simp only [List.append_assoc, List.cons_append, List.nil_append]
    rw [arrayItems, hskip]
    simp [hitem, hnext]
  | @cons t ts f w g v hf hw hg hts ih =>
    obtain ⟨fuel, rfl⟩ := Nat.exists_eq_add_one_of_ne_zero (Nat.ne_zero_of_lt hfuel)
    obtain ⟨s, u, hskip, hitem, hnext⟩ :=
      exists_item (c := ',') hf hw hg (by decide) (endsValue_cons (by decide) (v ++ r)) depth
    have hrest : arrayItems (value? depth) fuel (v ++ r) = some (ts.map .text, r) := by
      refine ih ?_
      simp only [List.length_append, List.length_cons] at hfuel
      omega
    simp only [List.append_assoc, List.cons_append]
    rw [arrayItems, hskip]
    simp [hitem, hnext, hrest]

/-- A written value is read, whatever stands behind it. -/
theorem value?_append {x : Setting} (hw : ValueWriting x w) (hr : EndsValue r) (depth : Nat) :
    value? (depth + 1) (w ++ r) = some (x.value, r) := by
  cases hw with
  | text hw =>
    rw [List.cons_append, List.append_assoc, value?_of_head (by decide) (by decide)]
    exact scalar?_text hw hr
  | number p =>
    have hscalar := scalar?_number p hr
    obtain ⟨c, t, ht, hc⟩ := exists_ofNat_eq_cons p.val
    have hhead {d : Char} (hd : ¬ d.isDigit) : c ≠ d := fun h => hd (h ▸ hc)
    change p.text = c :: t at ht
    rw [ht, List.cons_append] at hscalar ⊢
    rw [value?_of_head (hhead (by decide)) (hhead (by decide)), hscalar]
    rfl
  | yes => rfl
  | no => rfl
  | texts hw =>
    rw [List.cons_append, value?, arrayItems_append hw (by rw [List.length_append]; omega)]
    rfl

theorem ValueWriting.exists_cons {x : Setting} (hw : ValueWriting x w) : ∃ c s, w = c :: s ∧ ¬ isSpace c := by
  cases hw with
  | number p =>
    obtain ⟨c, t, ht, hc⟩ := exists_ofNat_eq_cons p.val
    refine ⟨c, t, ht, fun h => ?_⟩
    rcases isSpace_iff.mp h with rfl | rfl <;> exact absurd hc (by decide)
  | text | yes | no | texts => exact ⟨_, _, rfl, by decide⟩

end SchemaDrift.Toml
