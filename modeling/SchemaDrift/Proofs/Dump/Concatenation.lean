import SchemaDrift.Proofs.Dump.Tables

namespace SchemaDrift.Dump

/-- What stands behind the last block of a text: all of the text when it has none. -/
def remainder (t : Text) : Text :=
  match h : nextBlock? t with
  | none => t
  | some (_, rest) =>
    have := length_of_nextBlock? h
    remainder rest
termination_by t.length

/-- Whether a text is empty or ends in a semicolon and blanks. -/
def Complete (t : Text) : Prop :=
  t = [] ∨ ∃ front blanks, t = front ++ ';' :: blanks ∧ ∀ c ∈ blanks, Text.isBlank c

/-- A notice from a text that has `k` blocks more in front. -/
def Notice.later (k : Nat) : Notice → Notice
  | .unnamedBlock index => .unnamedBlock (index + k)
  | .skippedLine table number line => .skippedLine table number line

section Seam

variable {t s u b rest : Text}

/-- An end of a complete text that holds anything but blanks is complete and has a semicolon. -/
theorem Complete.of_suffix {c : Char} (h : Complete t) (hu : u <:+ t) (hc : c ∈ u)
    (hcb : ¬ Text.isBlank c) : ';' ∈ u ∧ Complete u := by
  rcases h with rfl | ⟨front, blanks, rfl, hblanks⟩
  · rw [List.suffix_nil.mp hu] at hc
    cases hc
  · have hsuffix : ';' :: blanks <:+ front ++ ';' :: blanks := List.suffix_append front _
    rcases List.suffix_or_suffix_of_suffix hsuffix hu with ⟨x, rfl⟩ | hin
    · exact ⟨by simp, .inr ⟨x, blanks, rfl, hblanks⟩⟩
    · rcases List.suffix_cons_iff.mp hin with rfl | hin
      · exact ⟨List.mem_cons_self, .inr ⟨[], blanks, rfl, hblanks⟩⟩
      · exact absurd (hblanks c (hin.subset hc)) hcb

/-- No opening begins in a complete text and ends behind it. -/
theorem Complete.clear (h : Complete t) (ht : ¬ opening <:+: t) (s : Text) :
    Text.Clear opening t s := by
  by_contra hn
  obtain ⟨p, q, hp, -, hpq, hsuffix, -⟩ := Text.exists_seam_of_not_clear ht hn
  obtain ⟨c, p, rfl⟩ := List.exists_cons_of_ne_nil hp
  have hc : c = 'C' := (List.cons.inj hpq).1.symm
  have hsemi := (h.of_suffix hsuffix List.mem_cons_self (by rw [hc]; decide)).1
  have hmem : ';' ∈ opening := hpq ▸ List.mem_append_left q hsemi
  exact absurd hmem (by decide)

/-- Behind a block of a complete text stands a complete text that is not empty. -/
theorem Complete.behind (h : Complete t) (hn : nextBlock? t = some (b, rest)) :
    rest ≠ [] ∧ Complete rest := by
  obtain ⟨lead, rfl, -, ⟨hopens, options, hoptions, hsemi⟩, hends⟩ := nextBlock?_eq_some_iff.mp hn
  obtain ⟨a, ha, -, hmark⟩ := Text.fromFirst?_eq_some_iff.mp hoptions
  have hsuffix : options ++ rest <:+ lead ++ (b ++ rest) := by
    have hb : options <:+ b := (ha ▸ List.suffix_append a options).trans (List.drop_suffix _ b)
    obtain ⟨x, rfl⟩ := hb
    rw [List.append_assoc x, ← List.append_assoc]
    exact List.suffix_append _ _
  have hE : 'E' ∈ options := hmark.subset (by decide)
  have hmem := (h.of_suffix hsuffix (List.mem_append_left rest hE) (by decide)).1
  have hrest : ';' ∈ rest := (List.mem_append.mp hmem).resolve_left hsemi
  refine ⟨List.ne_nil_of_mem hrest, (h.of_suffix ?_ hrest (by decide)).2⟩
  rw [← List.append_assoc]
  exact List.suffix_append _ _

end Seam

section Blocks

variable {t s b rest : Text}

theorem nextBlock?_append (h : nextBlock? t = some (b, rest)) (hrest : rest ≠ []) (s : Text) :
    nextBlock? (t ++ s) = some (b, rest ++ s) := by
  obtain ⟨lead, rfl, hlead, hblock, hends⟩ := nextBlock?_eq_some_iff.mp h
  have hopens : opening <+: b ++ rest := hblock.1.trans (List.prefix_append b rest)
  rw [nextBlock?_eq_some_iff]
  refine ⟨lead, by simp only [List.append_assoc], ?_, hblock, ?_⟩
  · rw [← List.append_assoc]
    exact hlead.append_right hopens s
  · rw [Ends, List.head?_append_of_ne_nil _ hrest]
    exact hends

/-- Behind a complete text without a pending opening the blocks are found as if it was not there. -/
theorem blocks_append (h : Complete t) (ht : ¬ opening <:+: remainder t) (s : Text) :
    blocks (t ++ s) = blocks t ++ blocks s := by
  fun_induction remainder t with
  | case1 t hn =>
    rw [blocks_eq_nil_iff.mpr hn, List.nil_append]
    exact blocks_append_of_clear (h.clear ht s)
  | case2 t b rest hn _ ih =>
    obtain ⟨hne, hrest⟩ := h.behind hn
    rw [blocks_of_nextBlock? hn, blocks_of_nextBlock? (nextBlock?_append hn hne s), ih hrest ht,
      List.cons_append]

/-- The remainder is all of a text without blocks, and else what the last block leaves. -/
theorem exists_append_remainder (t : Text) :
    ∃ front, t = front ++ remainder t ∧ (blocks t = [] → front = []) ∧
      (∀ b ∈ (blocks t).getLast?, b <:+ front) ∧ blocks (remainder t) = [] := by
  fun_induction remainder t with
  | case1 t hn =>
    have hblocks := blocks_eq_nil_iff.mpr hn
    exact ⟨[], rfl, fun _ => rfl, by simp [hblocks], hblocks⟩
  | case2 t b rest hn _ ih =>
    obtain ⟨lead, ht, -⟩ := nextBlock?_eq_some_iff.mp hn
    obtain ⟨front, hrest, hnone, hlast, hblocks⟩ := ih
    have hwhole : t = lead ++ b ++ front ++ remainder rest := by
      rw [ht, List.append_assoc _ front, ← hrest, List.append_assoc]
    refine ⟨lead ++ b ++ front, hwhole, by simp [blocks_of_nextBlock? hn], ?_, hblocks⟩
    rw [blocks_of_nextBlock? hn, List.getLast?_cons]
    rintro _ ⟨⟩
    cases hbehind : (blocks rest).getLast? with
    | none =>
      rw [hnone (List.getLast?_eq_none_iff.mp hbehind), List.append_nil]
      exact List.suffix_append lead b
    | some last => exact (hlast last hbehind).trans (List.suffix_append _ front)

end Blocks

section Reading

theorem readingsFrom_append (k : Nat) (as bs : List Text) :
    readingsFrom k (as ++ bs) = readingsFrom k as ++ readingsFrom (k + as.length) bs := by
  rw [readingsFrom, List.zipIdx_append, List.map_append]
  rfl

/-- A reading whose blocks come `k` blocks later. -/
def Reading.later (k : Nat) (r : Reading) : Reading :=
  { r with notices := r.notices.map (Notice.later k) }

theorem readBlock_add (index k : Nat) (b : Text) :
    readBlock (index + k) b = (readBlock index b).later k := by
  have hlines (name : Text) : (skippedLines name b).map (Notice.later k) = skippedLines name b := by
    rw [skippedLines, List.map_filterMap]
    apply List.filterMap_congr
    rintro ⟨line, number⟩ -
    by_cases hline : Line.read line = .unknown <;> simp [hline, Notice.later]
  simp only [readBlock, Reading.later]
  cases tableName? b with
  | none => rfl
  | some name => simp only [hlines]

theorem readingsFrom_eq_map_later (k : Nat) (bs : List Text) :
    readingsFrom k bs = (readingsFrom 0 bs).map (Reading.later k) := by
  have hzip : bs.zipIdx k = bs.zipIdx.map (Prod.map id (· + k)) := by
    rw [List.map_snd_add_zipIdx_eq_zipIdx, Nat.add_zero]
  rw [readingsFrom, readingsFrom, hzip, List.map_map, List.map_map]
  exact List.map_congr_left fun p _ => readBlock_add p.2 k p.1

/-- Complete dumps without a pending opening are read one by one, the blocks numbered throughout. A
text without openings that ends in a semicolon in front of a dump does not change what is read. -/
theorem read_append (b : Text) :
    (∀ a, Complete a → ¬ opening <:+: remainder a →
      read (a ++ b) = {
        tables := (read a).tables ++ (read b).tables
        notices := (read a).notices ++ (read b).notices.map (Notice.later (blocks a).length) }) ∧
    ∀ a, a.getLast? = some ';' → ¬ opening <:+: a → read (a ++ b) = read b := by
  constructor
  · intro a ha hrest
    have htables (k : Nat) (rs : List Reading) :
        (rs.map (Reading.later k)).flatMap Reading.tables = rs.flatMap Reading.tables := by
      rw [List.flatMap_map]
      rfl
    have hnotices (k : Nat) (rs : List Reading) :
        (rs.map (Reading.later k)).flatMap Reading.notices =
          (rs.flatMap Reading.notices).map (Notice.later k) := by
      rw [List.flatMap_map, List.map_flatMap]
      rfl
    simp only [read_eq, blocks_append ha hrest, readingsFrom_append, Nat.zero_add,
      readingsFrom_eq_map_later (blocks a).length, List.flatMap_append, htables, hnotices]
  · intro a ha hopens
    obtain ⟨front, rfl⟩ := List.getLast?_eq_some_iff.mp ha
    have hcomplete : Complete (front ++ [';']) := .inr ⟨front, [], rfl, by simp⟩
    rw [read_eq, read_eq, blocks_append_of_clear (hcomplete.clear hopens b)]

/-- A seam between two dumps that both have a nameless block and an unknown line. -/
theorem read_append_nameless :
    let front : Text := "CREATE TABLE x ENGINE;\nCREATE TABLE `t` (\n  x\n) ENGINE=A"
    let a : Text := front ++ ";\n"
    let b : Text := "CREATE TABLE y ENGINE;CREATE TABLE `u` (\n  `k` int,\n  y\n) ENGINE=B"
    let lead : Text := "DROP TABLE `t`;"
    (Complete a ∧ ¬ opening <:+: remainder a ∧
      (read (a ++ b)).tables.map Table.name = [("t" : Text), "u"] ∧
      (read (a ++ b)).notices = [.unnamedBlock 0, .skippedLine "t" 2 "  x",
        .unnamedBlock 2, .skippedLine "u" 3 "  y"]) ∧
    lead.getLast? = some ';' ∧ ¬ opening <:+: lead ∧ read (lead ++ b) = read b := by
  intro front a b lead
  have hblank : ∀ c ∈ ['\n'], Text.isBlank c := by
    intro c hc
    rw [List.mem_singleton.mp hc]
    decide
  have hcomplete : Complete a := .inr ⟨front, ['\n'], rfl, hblank⟩
  have hremainder : ¬ opening <:+: remainder a := by decide +kernel
  have hlast : lead.getLast? = some ';' := by decide
  have hopens : ¬ opening <:+: lead := by decide
  have hread := (read_append b).1 a hcomplete hremainder
  have hlead := (read_append b).2 lead hlast hopens
  have htables : (read (a ++ b)).tables.map Table.name = [("t" : Text), "u"] := by
    rw [hread]
    decide +kernel
  have hnotices : (read (a ++ b)).notices = [.unnamedBlock 0, .skippedLine "t" 2 "  x",
      .unnamedBlock 2, .skippedLine "u" 3 "  y"] := by
    rw [hread]
    decide +kernel
  exact ⟨⟨hcomplete, hremainder, htables, hnotices⟩, hlast, hopens, hlead⟩

end Reading

end SchemaDrift.Dump
