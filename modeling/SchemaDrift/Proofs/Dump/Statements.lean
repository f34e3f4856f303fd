import SchemaDrift.Proofs.Dump.Tables
import SchemaDrift.Proofs.Text.Pieces

namespace SchemaDrift

/-- Where a reader of statements stands: outside of string literals, in one, or in one behind a
backslash. -/
inductive Quoting where
  | bare
  | literal
  | escaped
  deriving DecidableEq, Repr

namespace Quoting

def step : Quoting → Char → Quoting
  | .bare, c => if c = '\'' then .literal else .bare
  | .literal, c => if c = '\'' then .bare else if c = '\\' then .escaped else .literal
  | .escaped, _ => .literal

/-- Where the reader stands behind a text. -/
def behind (q : Quoting) (t : Text) : Quoting := t.foldl step q

/-- The characters of a text that stand outside of string literals. -/
def outside : Quoting → Text → Text
  | _, [] => []
  | q, c :: r => if q = .bare then c :: outside (q.step c) r else outside (q.step c) r

variable {q : Quoting} {a b : Text}

theorem behind_append : q.behind (a ++ b) = (q.behind a).behind b := List.foldl_append

theorem outside_append : q.outside (a ++ b) = q.outside a ++ (q.behind a).outside b := by
  induction a generalizing q with
  | nil => rfl
  | cons c a ih =>
    have hbehind : q.behind (c :: a) = (q.step c).behind a := rfl
    rw [hbehind, List.cons_append, outside, outside, ih]
    split
    · rfl
    · rfl

/-- Blanks are no part of a literal. -/
theorem behind_blanks (h : ∀ c ∈ a, Text.isBlank c) : Quoting.bare.behind a = .bare := by
  induction a with
  | nil => rfl
  | cons c a ih =>
    have hc : c ≠ '\'' := by
      rintro rfl
      exact absurd (h '\'' List.mem_cons_self) (by decide)
    have hstep : Quoting.bare.step c = .bare := if_neg hc
    change (Quoting.bare.step c).behind a = .bare
    rw [hstep, ih fun d hd => h d (List.mem_cons_of_mem c hd)]

end Quoting

namespace Dump

/-- Whether a text has its semicolons in string literals, all of which are closed. -/
def Unbroken (t : Text) : Prop := Quoting.bare.behind t = .bare ∧ ';' ∉ Quoting.bare.outside t

/-- A statement of a dump: its semicolons are in string literals, and an opening stands nowhere but
behind its leading blanks. -/
structure IsStatement (s : Text) : Prop where
  unbroken : Unbroken s
  opens : ¬ opening <:+: s.trimStart.tail

instance (t : Text) : Decidable (Unbroken t) := inferInstanceAs (Decidable (_ ∧ _))

instance (s : Text) : Decidable (IsStatement s) :=
  decidable_of_iff (Unbroken s ∧ ¬ opening <:+: s.trimStart.tail)
    ⟨fun h => ⟨h.1, h.2⟩, fun h => ⟨h.unbroken, h.opens⟩⟩

/-- The dump of these statements, each with its semicolon. -/
def dumpOf (ss : List Text) : Text := ss.flatMap fun s => s ++ [';']

/-- The table definition that a statement is, without its leading blanks. -/
def created? (s : Text) : Option Text :=
  if opening.isPrefixOf s.trimStart then some s.trimStart else none

/-- Whether a statement with others behind it is a block by itself if a block starts with it, which
is so if it starts with an opening and an engine mark follows, in the statement or in the others. -/
def StandsAlone (s : Text) (others : List Text) : Prop :=
  opening <+: s.trimStart →
    engine <:+: (s.trimStart ++ ';' :: dumpOf others).drop opening.length → IsBlock s.trimStart

/-- Whether each statement stands alone in front of those behind it. -/
def Undivided (ss : List Text) : Prop := ∀ s others, s :: others <:+ ss → StandsAlone s others

section Statements

variable {s t b rest : Text} {ss : List Text}

theorem dumpOf_cons (s : Text) (ss : List Text) : dumpOf (s :: ss) = s ++ ';' :: dumpOf ss := by
  simp [dumpOf]

theorem Unbroken.trimStart (h : Unbroken s) : Unbroken s.trimStart := by
  obtain ⟨blanks, hs, hblanks, -⟩ := Text.exists_blanks_trimStart s
  have hbare := Quoting.behind_blanks hblanks
  obtain ⟨hclosed, hsemi⟩ := h
  rw [hs, Quoting.behind_append, hbare] at hclosed
  rw [hs, Quoting.outside_append, hbare] at hsemi
  exact ⟨hclosed, fun hc => hsemi (List.mem_append_right _ hc)⟩

/-- An unbroken text goes on to the first semicolon that follows an unbroken start. -/
theorem Unbroken.not_append (ht : Unbroken t) (u : Text) : ¬ Unbroken (t ++ ';' :: u) := by
  rintro ⟨-, hsemi⟩
  rw [Quoting.outside_append, ht.1] at hsemi
  exact hsemi (List.mem_append_right _ List.mem_cons_self)

/-- Of a text only one unbroken start has a semicolon or nothing behind it. -/
theorem Unbroken.eq_of_append (ht : Unbroken t) (hb : Unbroken b) (hrest : Ends rest) {u : Text}
    (h : t ++ ';' :: u = b ++ rest) : b = t := by
  rcases List.append_eq_append_iff.mp h with ⟨x, rfl, hx⟩ | ⟨x, rfl, rfl⟩
  · cases x with
    | nil => exact List.append_nil t
    | cons c x =>
      obtain ⟨rfl, -⟩ := List.cons.inj hx
      exact absurd hb (ht.not_append x)
  · cases x with
    | nil => exact (List.append_nil b).symm
    | cons c x =>
      have hc : c = ';' := hrest c rfl
      subst hc
      exact absurd ht (hb.not_append x)

theorem blocks_semicolon (t : Text) : blocks (';' :: t) = blocks t := by
  have hclear : Text.Clear opening [';'] t := by
    refine Text.clear_of_getLast (by decide) ?_
    rintro c ⟨⟩
    decide
  exact blocks_append_of_clear hclear

/-- The leading blanks of a statement are passed over. -/
theorem blocks_dumpOf_cons (s : Text) (ss : List Text) :
    blocks (dumpOf (s :: ss)) = blocks (s.trimStart ++ ';' :: dumpOf ss) := by
  obtain ⟨blanks, hs, hblanks, -⟩ := Text.exists_blanks_trimStart s
  have hclear : Text.Clear opening blanks (s.trimStart ++ ';' :: dumpOf ss) := by
    rintro p q rfl hq ⟨x, hx⟩
    obtain ⟨c, q, rfl⟩ := List.exists_cons_of_ne_nil hq
    have hc : 'C' = c := (List.cons.inj hx).1
    subst hc
    exact absurd (hblanks 'C' (List.mem_append_right p List.mem_cons_self)) (by decide)
  have hdump : dumpOf (s :: ss) = blanks ++ (s.trimStart ++ ';' :: dumpOf ss) := by
    rw [dumpOf_cons, ← List.append_assoc, ← hs]
  rw [hdump, blocks_append_of_clear hclear]

/-- A statement that starts with no opening is passed over. -/
theorem blocks_dumpOf_cons_of_not (hs : IsStatement s) (h : ¬ opening <+: s.trimStart) :
    blocks (dumpOf (s :: ss)) = blocks (dumpOf ss) := by
  have hnone : ¬ opening <:+: s.trimStart := by
    cases ht : s.trimStart with
    | nil => decide
    | cons c r =>
      rw [List.infix_cons_iff, not_or, ← ht]
      have htail := hs.opens
      rw [ht] at htail
      exact ⟨h, htail⟩
  have hclear : Text.Clear opening s.trimStart (';' :: dumpOf ss) := by
    refine Text.clear_of_head hnone ?_
    rintro c ⟨⟩
    decide
  rw [blocks_dumpOf_cons, blocks_append_of_clear hclear, blocks_semicolon]

/-- A text that starts with an opening and has an engine mark behind it starts with a block. -/
theorem exists_first_block (hopens : opening <+: t) (hmark : engine <:+: t.drop opening.length) :
    ∃ b rest, t = b ++ rest ∧ IsBlock b ∧ Ends rest ∧ blocks t = b :: blocks rest := by
  have hsome : nextBlock? t ≠ none := by
    intro hnone
    obtain ⟨j, hj⟩ := Text.infix_iff_exists_drop.mp hmark
    rw [List.drop_drop] at hj
    exact nextBlock?_eq_none_iff.mp hnone 0 hopens _ (by omega) hj
  obtain ⟨⟨b, rest⟩, hn⟩ := Option.ne_none_iff_exists'.mp hsome
  obtain ⟨lead, ht, hlead, hblock, hends⟩ := nextBlock?_eq_some_iff.mp hn
  cases lead with
  | nil => exact ⟨b, rest, ht, hblock, hends, blocks_of_nextBlock? hn⟩
  | cons c lead =>
    rw [ht] at hopens
    exact absurd hopens (Text.clear_cons.mp hlead).1

/-- Where no engine mark is far enough from the start there is no block. -/
theorem blocks_eq_nil_of_mark (h : ¬ engine <:+: t.drop opening.length) : blocks t = [] := by
  rw [blocks_eq_nil_iff, nextBlock?_eq_none_iff]
  intro i _ j hj hmark
  apply h
  rw [Text.infix_iff_exists_drop]
  refine ⟨j - opening.length, ?_⟩
  rwa [List.drop_drop, Nat.add_sub_cancel' (by omega)]

theorem drop_suffix_drop_append (k : Nat) (a t : Text) : t.drop k <:+ (a ++ t).drop k := by
  have hdrop : t.drop k = ((a ++ t).drop k).drop a.length := by
    rw [List.drop_drop, Nat.add_comm, ← List.drop_drop, List.drop_left]
  rw [hdrop]
  exact List.drop_suffix _ _

/-- A statement that stands alone adds itself to the blocks or ends them, and with one that does not
a broken block starts. -/
theorem blocks_dumpOf_cases (hs : IsStatement s) (ss : List Text) :
    (StandsAlone s ss ∧
      (blocks (dumpOf (s :: ss)) = (created? s).toList ++ blocks (dumpOf ss) ∨
        blocks (dumpOf (s :: ss)) = [] ∧ blocks (dumpOf ss) = [])) ∨
    (¬ StandsAlone s ss ∧ ∃ b ∈ blocks (dumpOf (s :: ss)), ¬ Unbroken b) := by
  by_cases hopens : opening <+: s.trimStart
  case neg =>
    have hcreated : created? s = none := by
      rw [created?, if_neg fun hp => hopens (List.isPrefixOf_iff_prefix.mp hp)]
    refine .inl ⟨fun h => absurd h hopens, .inl ?_⟩
    rw [blocks_dumpOf_cons_of_not hs hopens, hcreated]
    rfl
  have hcreated : created? s = some s.trimStart := by
    rw [created?, if_pos (List.isPrefixOf_iff_prefix.mpr hopens)]
  rw [blocks_dumpOf_cons, hcreated]
  by_cases hmark : engine <:+: (s.trimStart ++ ';' :: dumpOf ss).drop opening.length
  case neg =>
    have hlater : ¬ engine <:+: (dumpOf ss).drop opening.length := by
      rw [List.append_cons] at hmark
      exact fun h => hmark (h.trans (drop_suffix_drop_append _ _ _).isInfix)
    exact .inl ⟨fun _ h => absurd h hmark,
      .inr ⟨blocks_eq_nil_of_mark hmark, blocks_eq_nil_of_mark hlater⟩⟩
  by_cases hblock : IsBlock s.trimStart
  · refine .inl ⟨fun _ _ => hblock, .inl ?_⟩
    have hends : Ends (';' :: dumpOf ss) := by
      rintro c ⟨⟩
      rfl
    rw [blocks_block_append hblock hends, blocks_semicolon]
    rfl
  · refine .inr ⟨fun h => hblock (h hopens hmark), ?_⟩
    obtain ⟨b, rest, ht, hb, hends, hblocks⟩ :=
      exists_first_block (hopens.trans (List.prefix_append _ _)) hmark
    refine ⟨b, hblocks ▸ List.mem_cons_self, fun hunbroken => hblock ?_⟩
    rwa [← hs.unbroken.trimStart.eq_of_append hunbroken hends ht]

end Statements

section Undivided

variable {ss : List Text} {s : Text}

theorem undivided_cons_iff : Undivided (s :: ss) ↔ StandsAlone s ss ∧ Undivided ss := by
  constructor
  · intro h
    refine ⟨h s ss List.suffix_rfl, fun s' others hs' => ?_⟩
    exact h s' others (hs'.trans (List.suffix_cons s ss))
  · rintro ⟨hs, hss⟩ s' others hs'
    rcases List.suffix_cons_iff.mp hs' with heq | hs'
    · obtain ⟨rfl, rfl⟩ := List.cons.inj heq
      exact hs
    · exact hss s' others hs'

/-- Where all blocks are unbroken no statement is divided. -/
theorem undivided_of_unbroken (h : ∀ s ∈ ss, IsStatement s)
    (hb : ∀ b ∈ blocks (dumpOf ss), Unbroken b) : Undivided ss := by
  induction ss with
  | nil => exact fun s others hs => absurd (List.suffix_nil.mp hs) (List.cons_ne_nil s others)
  | cons s ss ih =>
    have htail := ih fun s' hs' => h s' (List.mem_cons_of_mem s hs')
    rcases blocks_dumpOf_cases (h s List.mem_cons_self) ss with
      ⟨hs, heq | ⟨-, hnil⟩⟩ | ⟨-, b, hmem, hbroken⟩
    · refine undivided_cons_iff.mpr ⟨hs, htail fun b hmem => hb b ?_⟩
      rw [heq]
      exact List.mem_append_right _ hmem
    · refine undivided_cons_iff.mpr ⟨hs, htail fun b hmem => ?_⟩
      rw [hnil] at hmem
      cases hmem
    · exact absurd (hb b hmem) hbroken

/-- Where no statement is divided the blocks are the first of the statements that create tables. -/
theorem blocks_prefix_of_undivided (h : ∀ s ∈ ss, IsStatement s) (hu : Undivided ss) :
    blocks (dumpOf ss) <+: ss.filterMap created? := by
  induction ss with
  | nil =>
    rw [blocks_eq_nil (by decide)]
    exact List.nil_prefix
  | cons s ss ih =>
    obtain ⟨hs, hss⟩ := undivided_cons_iff.mp hu
    have hprefix := ih (fun s' hs' => h s' (List.mem_cons_of_mem s hs')) hss
    have hcons : (s :: ss).filterMap created? = (created? s).toList ++ ss.filterMap created? := by
      rw [List.filterMap_cons]
      cases created? s <;> rfl
    rcases blocks_dumpOf_cases (h s List.mem_cons_self) ss with ⟨-, heq | ⟨hnil, -⟩⟩ | ⟨hnot, -⟩
    · rw [heq, hcons]
      exact (List.prefix_append_right_inj _).mpr hprefix
    · rw [hnil]
      exact List.nil_prefix
    · exact absurd hs hnot

theorem unbroken_of_mem_map (h : ∀ s ∈ ss, IsStatement s) {b : Text}
    (hb : b ∈ ss.map Text.trimStart) : Unbroken b := by
  obtain ⟨s, hs, rfl⟩ := List.mem_map.mp hb
  exact (h s hs).unbroken.trimStart

theorem mem_map_of_mem_created {b : Text} (hb : b ∈ ss.filterMap created?) :
    b ∈ ss.map Text.trimStart := by
  obtain ⟨s, hs, hcreated⟩ := List.mem_filterMap.mp hb
  rw [created?, Option.ite_none_right_eq_some] at hcreated
  exact List.mem_map.mpr ⟨s, hs, Option.some.inj hcreated.2⟩

/-- The blocks of a dump of statements are whole statements if and only if each statement stands
alone. They are then its first table definitions, and every table has one of them as its content. -/
theorem blocks_whole_iff (h : ∀ s ∈ ss, IsStatement s) :
    ((∀ b ∈ blocks (dumpOf ss), b ∈ ss.map Text.trimStart) ↔ Undivided ss) ∧
      (Undivided ss → blocks (dumpOf ss) <+: ss.filterMap created? ∧
        ∀ t ∈ tables (dumpOf ss), t.content ∈ ss.map Text.trimStart) := by
  have hwhole (hu : Undivided ss) : ∀ b ∈ blocks (dumpOf ss), b ∈ ss.map Text.trimStart :=
    fun b hb => mem_map_of_mem_created ((blocks_prefix_of_undivided h hu).subset hb)
  have hundivided (hb : ∀ b ∈ blocks (dumpOf ss), b ∈ ss.map Text.trimStart) : Undivided ss :=
    undivided_of_unbroken h fun b hmem => unbroken_of_mem_map h (hb b hmem)
  refine ⟨⟨hundivided, hwhole⟩, fun hu => ⟨blocks_prefix_of_undivided h hu, fun t ht => ?_⟩⟩
  have hcontent : t.content ∈ (tables (dumpOf ss)).map Table.content := List.mem_map_of_mem ht
  rw [content_tables] at hcontent
  exact hwhole hu t.content (List.mem_of_mem_filter hcontent)

/-- A statement without a table, and a definition that has a semicolon in a literal in front of its
engine mark and blanks in front of all. -/
theorem blocks_whole_literal :
    let created : Text := "CREATE TABLE `t` (\n  `a` int COMMENT 'x;y'\n) ENGINE=A"
    let ss : List Text := ["SET @a = ';'", '\n' :: created]
    (∀ s ∈ ss, IsStatement s) ∧ Undivided ss ∧
      (∀ b ∈ blocks (dumpOf ss), b ∈ ss.map Text.trimStart) ∧
      (tables (dumpOf ss)).map Table.content = [created] := by
  intro created ss
  have hstatements : ∀ s ∈ ss, IsStatement s := by decide +kernel
  have hset : StandsAlone "SET @a = ';'" ['\n' :: created] := fun h => absurd h (by decide)
  have hcreated : StandsAlone ('\n' :: created) [] :=
    fun _ _ => ⟨by decide, " ENGINE=A", by decide, by decide⟩
  have hundivided : Undivided ss := by
    refine undivided_cons_iff.mpr ⟨hset, undivided_cons_iff.mpr ⟨hcreated, ?_⟩⟩
    exact fun s others h => absurd (List.suffix_nil.mp h) (List.cons_ne_nil s others)
  refine ⟨hstatements, hundivided, (blocks_whole_iff hstatements).1.mpr hundivided, ?_⟩
  decide +kernel

/-- A semicolon in a literal behind the engine mark cuts the definition short, and a definition
without an engine mark takes over the columns of the next one. -/
theorem content_of_divided :
    let cut : Text := "CREATE TABLE `t` (\n  `a` int\n) ENGINE=InnoDB COMMENT='a;b'"
    let kept : Text := "CREATE TABLE `t` (\n  `a` int\n) ENGINE=InnoDB COMMENT='a"
    let viewed : Text := "CREATE TABLE `u` (\n  `a` int\n)"
    let next : Text := "CREATE TABLE `v` (\n  `b` int\n) ENGINE=A"
    (IsStatement cut ∧
      (tables (dumpOf [cut])).map Table.content = [kept] ∧
      ¬ ∀ t ∈ tables (dumpOf [cut]), t.content ∈ [cut].map Text.trimStart) ∧
    (∀ s ∈ [viewed, next], IsStatement s) ∧
    tables (dumpOf [viewed, next]) = [{
      name := "u"
      columns := [⟨"a", "int"⟩, ⟨"b", "int"⟩]
      content := viewed ++ ';' :: next }] := by
  intro cut kept viewed next
  have hkept : (tables (dumpOf [cut])).map Table.content = [kept] := by decide +kernel
  refine ⟨⟨by decide +kernel, hkept, fun hwhole => ?_⟩, by decide +kernel, by decide +kernel⟩
  obtain ⟨t, ht, hcontent⟩ := List.mem_map.mp (hkept ▸ List.mem_singleton_self kept)
  have hmem := hwhole t ht
  rw [hcontent] at hmem
  exact absurd hmem (by decide)

end Undivided
end Dump
end SchemaDrift
