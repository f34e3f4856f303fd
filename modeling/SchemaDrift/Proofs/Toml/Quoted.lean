import SchemaDrift.Proofs.Text.Pieces
import SchemaDrift.Proofs.Text.Words
import SchemaDrift.Proofs.Toml.Writing

namespace SchemaDrift.Toml

variable {c : Char} {g k r t w : Text}

/-! ### Gaps -/

theorem isSpace_iff : isSpace c ↔ c = ' ' ∨ c = '\t' := by
  rw [isSpace, Bool.or_eq_true, decide_eq_true_iff, decide_eq_true_iff]

theorem skipSpaces_append (hg : IsGap g) (hr : ∀ c ∈ r.head?, ¬ isSpace c) : skipSpaces (g ++ r) = r :=
  Text.dropWhile_append_of_head hg hr

theorem skipSpaces_cons (hg : IsGap g) (hc : ¬ isSpace c) : skipSpaces (g ++ c :: r) = c :: r := by
  refine skipSpaces_append hg ?_
  rintro d ⟨⟩
  exact hc

/-! ### Texts -/

theorem hexValue?_digitChar {d : Nat} (hd : d < 16) (hc : c = Nat.digitChar d ∨ c = (Nat.digitChar d).toUpper) :
    Percent.hexValue? c = some d := by
  have hall : ∀ d : Fin 16, Percent.hexValue? (Nat.digitChar d) = some d.val ∧
      Percent.hexValue? (Nat.digitChar d).toUpper = some d.val := by decide
  rcases hc with rfl | rfl
  · exact (hall ⟨d, hd⟩).1
  · exact (hall ⟨d, hd⟩).2

theorem HexWriting.exists_mapM {n : Nat} (hw : HexWriting n w) :
    ∃ ds, w.mapM Percent.hexValue? = some ds ∧ ds.foldl (16 * · + ·) 0 = n := by
  induction hw with
  | nil => exact ⟨[], rfl, rfl⟩
  | @snoc n d w c hw hd hc ih =>
    obtain ⟨ds, hds, hvalue⟩ := ih
    refine ⟨ds ++ [d], ?_, by rw [List.foldl_append, hvalue]; rfl⟩
    rw [List.mapM_append, hds]
    simp [hexValue?_digitChar hd hc]

theorem codePoint?_append {places : Nat} (hw : HexWriting c.toNat w) (hlength : w.length = places) (r : Text) :
    codePoint? places (w ++ r) = some (c, r) := by
  obtain ⟨ds, hds, hvalue⟩ := hw.exists_mapM
  have hvalid : c.toNat.isValidChar := c.valid
  rw [codePoint?, List.take_left' hlength, List.drop_left' hlength, if_neg (by omega), hds]
  simp [hvalue, hvalid]

theorem CharWriting.exists_cons (hw : CharWriting c w) : ∃ d v, w = d :: v ∧ d ≠ '"' := by
  cases hw with
  | plain _ hmark => exact ⟨_, _, rfl, hmark⟩
  | sign | short | long => exact ⟨_, _, rfl, by decide⟩

/-- Each character is read on its own. -/
theorem basic_append_of_eq_some {fuel : Nat} {s : Text} (hw : CharWriting c w) (h : basic fuel r = some (t, s)) :
    basic (fuel + 1) (w ++ r) = some (c :: t, s) := by
  have hescape {v : Text} (hv : escape? v = some (c, r)) : basic (fuel + 1) ('\\' :: v) = some (c :: t, s) := by
    simp [basic, hv, h]
  cases hw with
  | plain hvisible hmark hback => simp [basic, hvisible, h]
  | sign he =>
    refine hescape ?_
    simp only [List.mem_cons, Prod.mk.injEq, List.not_mem_nil, or_false] at he
    rcases he with ⟨rfl, rfl⟩ | ⟨rfl, rfl⟩ | ⟨rfl, rfl⟩ | ⟨rfl, rfl⟩ | ⟨rfl, rfl⟩ | ⟨rfl, rfl⟩ | ⟨rfl, rfl⟩ <;> rfl
  | short hw hlength => exact hescape (codePoint?_append hw hlength r)
  | long hw hlength => exact hescape (codePoint?_append hw hlength r)

theorem basic_append (hw : TextWriting t w) {fuel : Nat} (hfuel : w.length < fuel) (r : Text) :
    basic fuel (w ++ '"' :: r) = some (t, r) := by
  induction hw generalizing fuel with
  | nil =>
    obtain ⟨fuel, rfl⟩ := Nat.exists_eq_add_one_of_ne_zero (Nat.ne_zero_of_lt hfuel)
    rfl
  | cons hc ht ih =>
    obtain ⟨fuel, rfl⟩ := Nat.exists_eq_add_one_of_ne_zero (Nat.ne_zero_of_lt hfuel)
    rw [List.append_assoc]
    refine basic_append_of_eq_some hc (ih ?_)
    obtain ⟨d, v, rfl, -⟩ := hc.exists_cons
    rw [List.cons_append, List.length_cons, List.length_append] at hfuel
    omega

/-- A text ends at its quotation mark. It does not go on over several lines, for which three marks would have to stand
at its front. -/
theorem quoted?_append (hw : TextWriting t w) (hr : r.head? ≠ some '"') :
    quoted? ('"' :: (w ++ '"' :: r)) = some (t, r) := by
  have hmarks : ¬ ['"', '"', '"'] <+: '"' :: (w ++ '"' :: r) := by
    rw [List.cons_prefix_cons]
    rintro ⟨-, hprefix⟩
    cases hw with
    | nil =>
      obtain ⟨s, rfl⟩ := (List.cons_prefix_cons.mp hprefix).2
      exact hr rfl
    | cons hc ht =>
      obtain ⟨d, v, rfl, hd⟩ := hc.exists_cons
      exact hd (List.cons_prefix_cons.mp hprefix).1.symm
  have hbasic : basic ((w ++ '"' :: r).length + 1) (w ++ '"' :: r) = some (t, r) :=
    basic_append hw (by rw [List.length_append]; omega) r
  simp only [quoted?, Text.dropStart?_eq_none hmarks, Option.map_none]
  exact hbasic

theorem notMem_of_isBareKeyChar (hc : isBareKeyChar c) : c ∉ [' ', '\t', '#', '[', '\n', '\r', '"', '\''] := by
  intro hmem
  simp only [List.mem_cons, List.not_mem_nil, or_false] at hmem
  rcases hmem with rfl | rfl | rfl | rfl | rfl | rfl | rfl | rfl <;> exact absurd hc (by decide)

theorem KeyWriting.exists_cons {key : Text} (hk : KeyWriting key k) :
    ∃ c v, k = c :: v ∧ c ∉ [' ', '\t', '#', '[', '\n', '\r'] := by
  cases hk with
  | bare hne hkey =>
    obtain ⟨c, v, rfl⟩ := List.exists_cons_of_ne_nil hne
    refine ⟨c, v, rfl, fun hmem => notMem_of_isBareKeyChar (hkey c List.mem_cons_self) ?_⟩
    exact List.mem_append_left _ hmem
  | quoted hw => exact ⟨_, _, rfl, by decide⟩

/-- A key ends at the first sign that no bare key has. -/
theorem keyPart?_append {key : Text} (hk : KeyWriting key k) (hr : ∀ c ∈ r.head?, ¬ isBareKeyChar c) :
    keyPart? (k ++ r) = some (key, r) := by
  cases hk with
  | bare hne hkey =>
    obtain ⟨c, v, rfl⟩ := List.exists_cons_of_ne_nil hne
    have hc := notMem_of_isBareKeyChar (hkey c List.mem_cons_self)
    unfold keyPart?
    split
    case h_1 h =>
      obtain ⟨rfl, -⟩ := List.cons.inj h
      exact absurd (by decide) hc
    case h_2 h =>
      obtain ⟨rfl, -⟩ := List.cons.inj h
      exact absurd (by decide) hc
    case h_3 =>
      rw [Text.takeWhile_append_of_head hkey hr, Text.dropWhile_append_of_head hkey hr]
      exact if_neg hne
  | quoted hw =>
    rw [List.cons_append, List.append_assoc]
    refine basic_append hw ?_ r
    rw [List.length_append]
    omega

theorem skipSpaces_key {key : Text} (hg : IsGap g) (hk : KeyWriting key k) (r : Text) :
    skipSpaces (g ++ (k ++ r)) = k ++ r := by
  obtain ⟨c, v, rfl, hc⟩ := hk.exists_cons
  refine skipSpaces_cons hg fun h => hc ?_
  rcases isSpace_iff.mp h with rfl | rfl <;> decide

/-- A key of one part. -/
theorem key?_append {a b key : Text} (ha : IsGap a) (hk : KeyWriting key k) (hb : IsGap b) (hc : c ∈ ['=', ']'])
    (r : Text) : key? (a ++ (k ++ (b ++ c :: r))) = some ([], key, c :: r) := by
  obtain ⟨hspace, hbare, hdot⟩ : ¬ isSpace c ∧ ¬ isBareKeyChar c ∧ c ≠ '.' := by
    simp only [List.mem_cons, List.not_mem_nil, or_false] at hc
    rcases hc with rfl | rfl <;> decide
  have hend : ∀ d ∈ (b ++ c :: r).head?, ¬ isBareKeyChar d := by
    cases b with
    | nil =>
      rintro d ⟨⟩
      exact hbare
    | cons e b =>
      rintro d ⟨⟩ hbare
      refine notMem_of_isBareKeyChar hbare ?_
      rcases isSpace_iff.mp (hb _ List.mem_cons_self) with rfl | rfl <;> decide
  have hparts (fuel : Nat) : keyParts (fuel + 1) (a ++ (k ++ (b ++ c :: r))) = some ([key], c :: r) := by
    rw [keyParts, skipSpaces_key ha hk, keyPart?_append hk hend]
    simp [skipSpaces_cons hb hspace, hdot]
  rw [key?, hparts]
  rfl

end SchemaDrift.Toml
