import SchemaDrift.Proofs.Dump.Tables

namespace SchemaDrift.Dump

/-- A piece of a text and the position at which it starts. -/
structure Place where
  start : Nat
  block : Text
  deriving DecidableEq, Repr

namespace Place

/-- The position behind a piece. -/
def stop (p : Place) : Nat := p.start + p.block.length

/-- Whether a position lies in a piece. -/
def Covers (p : Place) (i : Nat) : Prop := p.start ≤ i ∧ i < p.stop

/-- Whether a text can have a block at a place: the piece stands there and starts with an opening.
Behind that it has an engine mark, and no semicolon behind the first one. A semicolon or the end of
the text follows. -/
structure IsBlockOf (t : Text) (p : Place) : Prop where
  piece : p.block <+: t.drop p.start
  opens : opening <+: p.block
  mark : ∃ k, opening.length ≤ k ∧ engine <+: p.block.drop k ∧
    (∀ j, opening.length ≤ j → j < k → ¬ engine <+: p.block.drop j) ∧ ';' ∉ p.block.drop k
  follower : Ends (t.drop p.stop)

end Place

/-- From position `n` on, the blocks of a text are at these places: the places are in order and apart,
and no opening outside of them has an engine mark behind it. -/
structure PlacedFrom (n : Nat) (t : Text) (ps : List Place) : Prop where
  places : ∀ p ∈ ps, n ≤ p.start ∧ p.IsBlockOf t
  apart : ps.Pairwise fun p q => p.stop ≤ q.start
  complete : ∀ i, n ≤ i → opening <+: t.drop i → (∀ p ∈ ps, ¬ p.Covers i) →
    ∀ j, i + opening.length ≤ j → ¬ engine <+: t.drop j

section OnePlace

variable {t b rest : Text} {p : Place} {n : Nat}

theorem Place.isBlockOf_iff :
    p.IsBlockOf t ↔ t.drop p.start = p.block ++ t.drop p.stop ∧ IsBlock p.block ∧
      Ends (t.drop p.stop) := by
  constructor
  · rintro ⟨hpiece, hopens, hmark, hfollower⟩
    refine ⟨?_, isBlock_iff_drop.mpr ⟨hopens, hmark⟩, hfollower⟩
    rw [stop, ← List.drop_drop]
    exact List.prefix_append_drop hpiece
  · rintro ⟨hpiece, hblock, hfollower⟩
    obtain ⟨hopens, hmark⟩ := isBlock_iff_drop.mp hblock
    exact ⟨hpiece ▸ List.prefix_append _ _, hopens, hmark, hfollower⟩

theorem Place.IsBlockOf.prefix_drop (h : p.IsBlockOf t) : opening <+: t.drop p.start :=
  h.opens.trans h.piece

theorem Place.IsBlockOf.exists_mark (h : p.IsBlockOf t) :
    ∃ j, p.start + opening.length ≤ j ∧ engine <+: t.drop j := by
  obtain ⟨hpiece, -, ⟨k, hk, hmark, -⟩, -⟩ := h
  refine ⟨p.start + k, Nat.add_le_add_left hk _, hmark.trans ?_⟩
  rw [← List.drop_drop]
  exact hpiece.drop k

/-- The first block from position `n` on is at the first opening from there on. -/
theorem nextBlock?_drop_eq_some_iff :
    nextBlock? (t.drop n) = some (b, rest) ↔
      ∃ i, n ≤ i ∧ (∀ j, n ≤ j → j < i → ¬ opening <+: t.drop j) ∧
        (Place.mk i b).IsBlockOf t ∧ rest = t.drop (i + b.length) := by
  rw [nextBlock?_eq_some_iff]
  constructor
  · rintro ⟨lead, ht, hlead, hblock, hends⟩
    have hdrop : t.drop (n + lead.length) = b ++ rest := by
      rw [← List.drop_drop, ht, List.drop_left]
    have hrest : rest = t.drop (n + lead.length + b.length) := by
      rw [← List.drop_drop, hdrop, List.drop_left]
    refine ⟨n + lead.length, Nat.le_add_right n _, fun j hnj hj => ?_, ?_, hrest⟩
    · have hfirst := Text.clear_iff_drop.mp hlead (j - n) (by omega)
      rwa [← ht, List.drop_drop, Nat.add_sub_cancel' hnj] at hfirst
    · rw [Place.isBlockOf_iff]
      exact ⟨hdrop.trans (congrArg _ hrest), hblock, hrest ▸ hends⟩
  · rintro ⟨i, hi, hfirst, hplace, rfl⟩
    obtain ⟨hpiece, hblock, hends⟩ := Place.isBlockOf_iff.mp hplace
    have hdrop : (t.drop n).drop (i - n) = b ++ t.drop (i + b.length) := by
      rwa [List.drop_drop, Nat.add_sub_cancel' hi]
    have hsplit : t.drop n = (t.drop n).take (i - n) ++ (b ++ t.drop (i + b.length)) := by
      rw [← hdrop, List.take_append_drop]
    refine ⟨(t.drop n).take (i - n), hsplit, ?_, hblock, hends⟩
    rw [Text.clear_iff_drop, ← hsplit]
    intro j hj
    have hlt : j < i - n := hj.trans_le (List.length_take_le _ _)
    rw [List.drop_drop]
    exact hfirst (n + j) (Nat.le_add_right n j) (by omega)

end OnePlace

section Places

variable {t : Text} {p : Place} {ps qs : List Place} {n : Nat}

theorem placedFrom_nil_iff : PlacedFrom n t [] ↔ nextBlock? (t.drop n) = none := by
  rw [nextBlock?_eq_none_iff]
  constructor
  · intro h i hi j hj
    rw [List.drop_drop] at hi ⊢
    exact h.complete (n + i) (Nat.le_add_right n i) hi (by simp) (n + j) (by omega)
  · intro h
    refine ⟨by simp, List.Pairwise.nil, fun i hni hi _ j hj => ?_⟩
    have hbehind := h (i - n) (by rwa [List.drop_drop, Nat.add_sub_cancel' hni]) (j - n) (by omega)
    rwa [List.drop_drop, Nat.add_sub_cancel' (by omega)] at hbehind

/-- The first place is at the first opening, and the others are the places behind its block. -/
theorem placedFrom_cons_iff :
    PlacedFrom n t (p :: ps) ↔
      n ≤ p.start ∧ (∀ i, n ≤ i → i < p.start → ¬ opening <+: t.drop i) ∧ p.IsBlockOf t ∧
        PlacedFrom p.stop t ps := by
  have hle : p.start ≤ p.stop := Nat.le_add_right _ _
  constructor
  · rintro ⟨hplaces, hapart, hcomplete⟩
    obtain ⟨hstop, hapart⟩ := List.pairwise_cons.mp hapart
    obtain ⟨hn, hp⟩ := hplaces p List.mem_cons_self
    refine ⟨hn, fun i hni hi hopens => ?_, hp, fun q hq => ?_, hapart, fun i hi hopens hfree => ?_⟩
    · -- an opening in front of the first place would have the mark of the first block behind it
      obtain ⟨j, hj, hmark⟩ := hp.exists_mark
      refine hcomplete i hni hopens (fun q hq hcovers => ?_) j (by omega) hmark
      have hstart : p.start ≤ q.start := by
        rcases List.mem_cons.mp hq with rfl | hq
        · exact le_rfl
        · exact hle.trans (hstop q hq)
      exact absurd hcovers.1 (by omega)
    · exact ⟨hstop q hq, (hplaces q (List.mem_cons_of_mem p hq)).2⟩
    · refine hcomplete i (by omega) hopens fun q hq => ?_
      rcases List.mem_cons.mp hq with rfl | hq
      · exact fun hcovers => absurd hcovers.2 (by omega)
      · exact hfree q hq
  · rintro ⟨hn, hfirst, hp, hplaces, hapart, hcomplete⟩
    have hstop : ∀ q ∈ ps, p.stop ≤ q.start := fun q hq => (hplaces q hq).1
    refine ⟨fun q hq => ?_, List.pairwise_cons.mpr ⟨hstop, hapart⟩, fun i hni hopens hfree => ?_⟩
    · rcases List.mem_cons.mp hq with rfl | hq
      · exact ⟨hn, hp⟩
      · exact ⟨(hn.trans hle).trans (hstop q hq), (hplaces q hq).2⟩
    · have hstart : p.start ≤ i := not_lt.mp fun hi => hfirst i hni hi hopens
      have hbehind : p.stop ≤ i := not_lt.mp fun hi => hfree p List.mem_cons_self ⟨hstart, hi⟩
      exact hcomplete i hbehind hopens fun q hq => hfree q (List.mem_cons_of_mem p hq)

theorem PlacedFrom.nextBlock?_eq (h : PlacedFrom n t (p :: ps)) :
    nextBlock? (t.drop n) = some (p.block, t.drop p.stop) := by
  obtain ⟨hn, hfirst, hp, -⟩ := placedFrom_cons_iff.mp h
  exact nextBlock?_drop_eq_some_iff.mpr ⟨p.start, hn, hfirst, hp, rfl⟩

/-- What stands at the places is what the scan finds. -/
theorem PlacedFrom.map_block (h : PlacedFrom n t ps) : ps.map Place.block = blocks (t.drop n) := by
  induction ps generalizing n with
  | nil => exact (blocks_eq_nil_iff.mpr (placedFrom_nil_iff.mp h)).symm
  | cons p ps ih =>
    obtain ⟨-, -, -, hps⟩ := placedFrom_cons_iff.mp h
    rw [blocks_of_nextBlock? h.nextBlock?_eq, List.map_cons, ih hps]

/-- The first two places are at the same opening and hold the same block. -/
theorem PlacedFrom.head_eq {q : Place} (hp : PlacedFrom n t (p :: ps))
    (hq : PlacedFrom n t (q :: qs)) : p = q := by
  obtain ⟨hnp, hfirstp, hblockp, -⟩ := placedFrom_cons_iff.mp hp
  obtain ⟨hnq, hfirstq, hblockq, -⟩ := placedFrom_cons_iff.mp hq
  have hstart : p.start = q.start := by
    rcases lt_trichotomy p.start q.start with hlt | heq | hlt
    · exact absurd hblockp.prefix_drop (hfirstq _ hnp hlt)
    · exact heq
    · exact absurd hblockq.prefix_drop (hfirstp _ hnq hlt)
  have hnext := hp.nextBlock?_eq.symm.trans hq.nextBlock?_eq
  have hblock : p.block = q.block := congrArg Prod.fst (Option.some.inj hnext)
  cases p
  cases q
  exact congrArg₂ Place.mk hstart hblock

theorem PlacedFrom.unique (hp : PlacedFrom n t ps) (hq : PlacedFrom n t qs) : ps = qs := by
  induction ps generalizing n qs with
  | nil =>
    cases qs with
    | nil => rfl
    | cons q qs => cases (placedFrom_nil_iff.mp hp).symm.trans hq.nextBlock?_eq
  | cons p ps ih =>
    cases qs with
    | nil => cases (placedFrom_nil_iff.mp hq).symm.trans hp.nextBlock?_eq
    | cons q qs =>
      obtain rfl := hp.head_eq hq
      obtain ⟨-, -, -, hps⟩ := placedFrom_cons_iff.mp hp
      obtain ⟨-, -, -, hqs⟩ := placedFrom_cons_iff.mp hq
      rw [ih hps hqs]

theorem exists_placedFrom (n : Nat) (t : Text) : ∃ ps, PlacedFrom n t ps := by
  -- the scan goes on behind a block, so the induction is on the text behind a position
  generalize hu : t.drop n = u
  fun_induction blocks u generalizing n with
  | case1 u hnone =>
    subst hu
    exact ⟨[], placedFrom_nil_iff.mpr hnone⟩
  | case2 u b rest hsome _ ih =>
    subst hu
    obtain ⟨i, hi, hfirst, hplace, hrest⟩ := nextBlock?_drop_eq_some_iff.mp hsome
    obtain ⟨ps, hps⟩ := ih (i + b.length) hrest.symm
    exact ⟨⟨i, b⟩ :: ps, placedFrom_cons_iff.mpr ⟨hi, hfirst, hplace, hps⟩⟩

/-- The blocks of a text are pieces of it that are in order and apart. Each starts with an opening,
has an engine mark behind that and no semicolon behind the first one, and a semicolon or the end of
the text follows. No opening outside of them has an engine mark behind it. No other pieces are like
this, and those of the blocks that have a name are the contents of the tables. -/
theorem exists_unique_places (t : Text) :
    ∃ ps, PlacedFrom 0 t ps ∧ (∀ qs, PlacedFrom 0 t qs → qs = ps) ∧
      ps.map Place.block = blocks t ∧
      (tables t).map Table.content = (blocks t).filter fun b => (tableName? b).isSome := by
  obtain ⟨ps, hps⟩ := exists_placedFrom 0 t
  exact ⟨ps, hps, fun qs hqs => hqs.unique hps, hps.map_block, content_tables t⟩

end Places

end SchemaDrift.Dump
