import SchemaDrift.Dump.Block
import SchemaDrift.Proofs.Text.Pieces
import SchemaDrift.Proofs.Text.Search

namespace SchemaDrift.Dump

/-- What a block is by itself: it starts with an opening, and behind the first engine mark that
follows there is no semicolon. -/
def IsBlock (b : Text) : Prop :=
  opening <+: b ∧
    ∃ options, Text.fromFirst? engine (b.drop opening.length) = some options ∧ ';' ∉ options

/-- What may follow a block: a semicolon or nothing. -/
def Ends (rest : Text) : Prop := ∀ c ∈ rest.head?, c = ';'

/-- Nothing that is free of semicolons reaches into what follows a block. -/
theorem prefix_of_prefix_append_ends {needle a rest : Text} (hn : ';' ∉ needle) (hr : Ends rest)
    (h : needle <+: a ++ rest) : needle <+: a := by
  rcases List.prefix_or_prefix_of_prefix h (List.prefix_append a rest) with ha | ⟨q, rfl⟩
  · exact ha
  · rw [List.prefix_append_right_inj] at h
    cases q with
    | nil => rw [List.append_nil]
    | cons c q =>
      obtain ⟨rest', rfl⟩ := h
      have hc : c = ';' := hr c rfl
      exact absurd (List.mem_append_right a (hc ▸ List.mem_cons_self)) hn

theorem dropWhile_append_ends {options rest : Text} (hsemi : ';' ∉ options) (hr : Ends rest) :
    (options ++ rest).dropWhile (· ≠ ';') = rest :=
  Text.dropWhile_ne_append hsemi hr

/-- The text in front of the first semicolon, and the rest. -/
theorem exists_semicolon_split (t : Text) : ∃ options rest, t = options ++ rest ∧
    t.dropWhile (· ≠ ';') = rest ∧ ';' ∉ options ∧ Ends rest := by
  refine ⟨t.takeWhile (· ≠ ';'), t.dropWhile (· ≠ ';'), ?_, rfl, ?_, ?_⟩
  · exact List.takeWhile_append_dropWhile.symm
  · intro hc
    exact absurd (List.all_eq_true.mp List.all_takeWhile _ hc) (by simp)
  · intro c hc
    have hstop := List.head?_dropWhile_not (fun x => decide (x ≠ ';')) t
    rw [Option.mem_def.mp hc] at hstop
    simpa using hstop

section NextBlock

variable {t b rest lead s : Text}

theorem nextBlock?_append_of_clear (h : Text.Clear opening lead s) :
    nextBlock? (lead ++ s) = nextBlock? s := by
  rw [nextBlock?, nextBlock?, Text.fromFirst?_append_of_clear h]

theorem nextBlock?_block_append (hb : IsBlock b) (hr : Ends rest) :
    nextBlock? (b ++ rest) = some (b, rest) := by
  obtain ⟨hopening, options, hoptions, hsemi⟩ := hb
  have hstart : Text.fromFirst? opening (b ++ rest) = some (b ++ rest) :=
    Text.fromFirst?_of_prefix (hopening.trans (List.prefix_append b rest))
  have hdrop : (b ++ rest).drop opening.length = b.drop opening.length ++ rest :=
    List.drop_append_of_le_length hopening.length_le
  have hengine :
      Text.fromFirst? engine ((b ++ rest).drop opening.length) = some (options ++ rest) := by
    rw [hdrop]
    exact Text.fromFirst?_append hoptions rest
  have hrest := dropWhile_append_ends hsemi hr
  have htake : (b ++ rest).take ((b ++ rest).length - rest.length) = b := by
    rw [List.length_append, Nat.add_sub_cancel, List.take_left]
  rw [nextBlock?, hstart]
  simp only [Option.bind_eq_bind, Option.bind_some, hengine, hrest, htake]

/-- The first block is a block by itself. No opening begins in front of it, and it reaches to a
semicolon or to the end. -/
theorem nextBlock?_eq_some_iff :
    nextBlock? t = some (b, rest) ↔
      ∃ lead, t = lead ++ (b ++ rest) ∧ Text.Clear opening lead (b ++ rest) ∧ IsBlock b ∧
        Ends rest := by
  constructor
  · intro h
    cases hs : Text.fromFirst? opening t with
    | none => simp [nextBlock?, hs] at h
    | some start =>
      obtain ⟨lead, rfl, hlead, hopening⟩ := Text.fromFirst?_eq_some_iff.mp hs
      cases ho : Text.fromFirst? engine (start.drop opening.length) with
      | none => simp [nextBlock?, hs, ho] at h
      | some found =>
        simp only [nextBlock?, hs, ho, Option.bind_eq_bind, Option.bind_some, Option.some.injEq,
          Prod.mk.injEq] at h
        obtain ⟨rfl, rfl⟩ := h
        obtain ⟨options, rest, rfl, hdrop, hsemi, hrest⟩ := exists_semicolon_split found
        rw [hdrop]
        obtain ⟨body, hbody, hclear, hengine⟩ := Text.fromFirst?_eq_some_iff.mp ho
        have hmark : engine <+: options := prefix_of_prefix_append_ends (by decide) hrest hengine
        obtain ⟨tail, rfl⟩ := hopening
        rw [List.drop_left] at hbody
        subst hbody
        have hstart :
            opening ++ (body ++ (options ++ rest)) = opening ++ (body ++ options) ++ rest := by
          simp only [List.append_assoc]
        rw [hstart] at hlead ⊢
        rw [List.length_append, Nat.add_sub_cancel, List.take_left]
        refine ⟨lead, rfl, hlead, ⟨List.prefix_append _ _, options, ?_, hsemi⟩, hrest⟩
        rw [List.drop_left, Text.fromFirst?_eq_some_iff]
        exact ⟨body, rfl, hclear.of_append, hmark⟩
  · rintro ⟨lead, rfl, hlead, hb, hr⟩
    rw [nextBlock?_append_of_clear hlead, nextBlock?_block_append hb hr]

end NextBlock

section Blocks

variable {t b rest lead s : Text}

theorem blocks_eq_nil_iff : blocks t = [] ↔ nextBlock? t = none := by
  rw [blocks]
  split
  next h => simp only [h]
  next h => simp only [h, reduceCtorEq]

theorem blocks_of_nextBlock? (h : nextBlock? t = some (b, rest)) : blocks t = b :: blocks rest := by
  rw [blocks]
  split
  next hn => rw [h] at hn; cases hn
  next hs => rw [h] at hs; cases hs; rfl

theorem blocks_append_of_clear (h : Text.Clear opening lead s) : blocks (lead ++ s) = blocks s := by
  cases hn : nextBlock? s with
  | none => rw [blocks_eq_nil_iff.mpr hn, blocks_eq_nil_iff, nextBlock?_append_of_clear h, hn]
  | some found =>
    obtain ⟨b, rest⟩ := found
    rw [blocks_of_nextBlock? hn, blocks_of_nextBlock?]
    rw [nextBlock?_append_of_clear h, hn]

theorem blocks_block_append (hb : IsBlock b) (hr : Ends rest) :
    blocks (b ++ rest) = b :: blocks rest :=
  blocks_of_nextBlock? (nextBlock?_block_append hb hr)

theorem blocks_eq_nil (h : ¬ opening <:+: t) : blocks t = [] := by
  rw [blocks_eq_nil_iff, nextBlock?, Text.fromFirst?_eq_none_iff.mpr h]
  rfl

theorem infix_of_mem_blocks (h : b ∈ blocks t) : b <:+: t := by
  fun_induction blocks t with
  | case1 => cases h
  | case2 t first rest hn _ ih =>
    obtain ⟨lead, rfl, -⟩ := nextBlock?_eq_some_iff.mp hn
    rcases List.mem_cons.mp h with rfl | h
    · exact ⟨lead, rest, List.append_assoc lead b rest⟩
    · exact (ih h).trans ((List.suffix_append first rest).trans (List.suffix_append lead _)).isInfix

theorem isBlock_of_mem_blocks (h : b ∈ blocks t) : IsBlock b := by
  fun_induction blocks t with
  | case1 => cases h
  | case2 t first rest hn _ ih =>
    rcases List.mem_cons.mp h with rfl | h
    · obtain ⟨lead, -, -, hb, -⟩ := nextBlock?_eq_some_iff.mp hn
      exact hb
    · exact ih h

end Blocks

section Positions

variable {t b rest : Text} {n : Nat}

theorem isBlock_iff_drop :
    IsBlock b ↔ opening <+: b ∧ ∃ k, opening.length ≤ k ∧ engine <+: b.drop k ∧
      (∀ j, opening.length ≤ j → j < k → ¬ engine <+: b.drop j) ∧ ';' ∉ b.drop k := by
  have hne : engine ≠ [] := by decide
  constructor
  · rintro ⟨hopens, options, hoptions, hsemi⟩
    obtain ⟨k, rfl, hk, hfirst⟩ := (Text.fromFirst?_eq_some_iff_drop hne).mp hoptions
    rw [List.drop_drop] at hk hsemi
    refine ⟨hopens, opening.length + k, Nat.le_add_right _ k, hk, fun j hj hjk => ?_, hsemi⟩
    have hbehind := hfirst (j - opening.length) (by omega)
    rwa [List.drop_drop, Nat.add_sub_cancel' hj] at hbehind
  · rintro ⟨hopens, k, hk, hmark, hfirst, hsemi⟩
    refine ⟨hopens, b.drop k, (Text.fromFirst?_eq_some_iff_drop hne).mpr ?_, hsemi⟩
    refine ⟨k - opening.length, ?_, ?_, fun i hi => ?_⟩
    · rw [List.drop_drop, Nat.add_sub_cancel' hk]
    · rwa [List.drop_drop, Nat.add_sub_cancel' hk]
    · rw [List.drop_drop]
      exact hfirst _ (Nat.le_add_right _ i) (by omega)

/-- A text has no block if and only if none of its openings has an engine mark behind it. -/
theorem nextBlock?_eq_none_iff :
    nextBlock? t = none ↔
      ∀ i, opening <+: t.drop i → ∀ j, i + opening.length ≤ j → ¬ engine <+: t.drop j := by
  constructor
  · intro h i hi j hj hengine
    obtain ⟨k, hk, hs⟩ := Text.exists_fromFirst?_of_prefix_drop (by decide) hi
    have hmark : engine <+: ((t.drop k).drop opening.length).drop (j - (k + opening.length)) := by
      rwa [List.drop_drop, List.drop_drop, ← Nat.add_assoc, Nat.add_sub_cancel' (by omega)]
    obtain ⟨l, -, ho⟩ := Text.exists_fromFirst?_of_prefix_drop (by decide) hmark
    simp only [nextBlock?, hs, ho, Option.bind_eq_bind, Option.bind_some, reduceCtorEq] at h
  · intro h
    rw [Option.eq_none_iff_forall_ne_some]
    rintro ⟨b, rest⟩ hb
    obtain ⟨lead, rfl, -, hblock, -⟩ := nextBlock?_eq_some_iff.mp hb
    obtain ⟨hopens, k, hk, hmark, -⟩ := isBlock_iff_drop.mp hblock
    refine h lead.length ?_ (lead.length + k) (Nat.add_le_add_left hk _) ?_
    · rw [List.drop_left]
      exact hopens.trans (List.prefix_append b rest)
    · rw [← List.drop_drop, List.drop_left]
      exact hmark.trans ((List.prefix_append b rest).drop k)

end Positions

end SchemaDrift.Dump
