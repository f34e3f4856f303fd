import SchemaDrift.Proofs.Dump.Tables
import SchemaDrift.Proofs.Text.Pieces

namespace SchemaDrift.Dump

section Names

variable {line name b : Text}

/-- Whether the first two ticks of a line stand around `name`. -/
def Quotes (line name : Text) : Prop :=
  ∃ before behind, line = before ++ Text.tick :: (name ++ Text.tick :: behind) ∧
    Text.tick ∉ before ∧ Text.tick ∉ name

/-- Whether no line of a block holds two ticks. -/
def Nameless (b : Text) : Prop := ∀ line ∈ b.splitOn '\n', line.count Text.tick < 2

/-- Whether `name` stands between the first two ticks of the first line that holds two. -/
def Named (b name : Text) : Prop :=
  ∃ above line below, b.splitOn '\n' = above ++ line :: below ∧
    (∀ l ∈ above, l.count Text.tick < 2) ∧ Quotes line name

theorem quotedName?_eq_some_iff : quotedName? line = some name ↔ Quotes line name := by
  constructor
  · intro h
    cases hfirst : line.cutAt? Text.tick with
    | none => simp [quotedName?, hfirst] at h
    | some first =>
      obtain ⟨before, opened⟩ := first
      cases hsecond : opened.cutAt? Text.tick with
      | none => simp [quotedName?, hfirst, hsecond] at h
      | some second =>
        obtain ⟨quoted, behind⟩ := second
        have hname : quoted = name := by simpa [quotedName?, hfirst, hsecond] using h
        subst hname
        obtain ⟨rfl, hbefore⟩ := Text.cutAt?_eq_some hfirst
        obtain ⟨rfl, hquoted⟩ := Text.cutAt?_eq_some hsecond
        exact ⟨before, behind, rfl, hbefore, hquoted⟩
  · rintro ⟨before, behind, rfl, hbefore, hname⟩
    simp [quotedName?, Text.cutAt?_append hbefore, Text.cutAt?_append hname]

/-- A line with two ticks holds a quoted name. -/
theorem exists_quotes_iff : (∃ name, Quotes line name) ↔ 2 ≤ line.count Text.tick := by
  constructor
  · rintro ⟨name, before, behind, rfl, -, -⟩
    simp only [List.count_append, List.count_cons_self]
    omega
  · intro h
    have hline : Text.tick ∈ line := List.count_pos_iff.mp (by omega)
    obtain ⟨before, opened, rfl, hbefore⟩ := List.eq_append_cons_of_mem hline
    have hopened : 0 < opened.count Text.tick := by
      rw [List.count_append, List.count_eq_zero_of_not_mem hbefore, List.count_cons_self] at h
      omega
    obtain ⟨name, behind, rfl, hname⟩ := List.eq_append_cons_of_mem (List.count_pos_iff.mp hopened)
    exact ⟨name, before, behind, rfl, hbefore, hname⟩

theorem quotedName?_eq_none_iff : quotedName? line = none ↔ line.count Text.tick < 2 := by
  rw [Option.eq_none_iff_forall_ne_some, ← not_le, ← exists_quotes_iff, not_exists]
  exact forall_congr' fun name => not_congr quotedName?_eq_some_iff

theorem tableName?_eq_none_iff : tableName? b = none ↔ Nameless b := by
  simp only [tableName?, List.findSome?_eq_none_iff, quotedName?_eq_none_iff, Nameless]

theorem tableName?_eq_some_iff : tableName? b = some name ↔ Named b name := by
  simp only [tableName?, List.findSome?_eq_some_iff, quotedName?_eq_some_iff,
    quotedName?_eq_none_iff, Named]
  constructor
  · rintro ⟨above, line, below, hsplit, hquotes, habove⟩
    exact ⟨above, line, below, hsplit, habove, hquotes⟩
  · rintro ⟨above, line, below, hsplit, habove, hquotes⟩
    exact ⟨above, line, below, hsplit, hquotes, habove⟩

/-- A name that stands between the first two ticks of the first line is the name of the block. -/
theorem tableName?_append {before : Text} (hbefore : Text.tick ∉ before) (hname : Text.tick ∉ name)
    (hbreak : '\n' ∉ before ++ name) (behind : Text) :
    tableName? (before ++ Text.tick :: (name ++ Text.tick :: behind)) = some name := by
  have hfirst {rest : Text} (hrest : '\n' ∉ rest) :
      '\n' ∉ before ++ Text.tick :: (name ++ Text.tick :: rest) := by
    simp only [List.mem_append, List.mem_cons, not_or] at hbreak ⊢
    exact ⟨hbreak.1, by decide, hbreak.2, by decide, hrest⟩
  rw [tableName?_eq_some_iff]
  by_cases hmem : '\n' ∈ behind
  · obtain ⟨rest, below, rfl, hrest⟩ := List.eq_append_cons_of_mem hmem
    have hsplit := List.splitOn_append_cons_self_of_not_mem (hfirst hrest) below
    refine ⟨[], _, below.splitOn '\n', ?_, by simp, before, rest, rfl, hbefore, hname⟩
    rw [List.nil_append, ← hsplit]
    simp
  · exact ⟨[], _, [], List.splitOn_eq_singleton (hfirst hmem), by simp, before, behind, rfl, hbefore, hname⟩

end Names

section Frames

variable {line : Text}

/-- Whether a line is blank or has `CREATE` or a closing parenthesis behind its leading blanks. -/
def Frames (line : Text) : Prop :=
  ∃ blanks rest, line = blanks ++ rest ∧ (∀ c ∈ blanks, Text.isBlank c) ∧
    (rest = [] ∨ ("CREATE" : Text) <+: rest ∨ [')'] <+: rest)

theorem isFrame_iff : isFrame line ↔ Frames line := by
  have hstart (t : Text) : t.head? = some ')' ↔ [')'] <+: t := by
    cases t <;> simp [eq_comm]
  constructor
  · intro h
    obtain ⟨blanks, hline, hblanks, -⟩ := Text.exists_blanks_trimStart line
    exact ⟨blanks, line.trimStart, hline, hblanks, by simpa [isFrame, hstart, or_assoc] using h⟩
  · rintro ⟨blanks, rest, rfl, hblanks, hrest⟩
    have htrim : (blanks ++ rest).trimStart = rest := by
      rw [Text.trimStart_append hblanks]
      rcases hrest with rfl | ⟨s, rfl⟩ | ⟨s, rfl⟩
      · rfl
      · exact Text.trimStart_of_head (by rintro d ⟨⟩; decide)
      · exact Text.trimStart_of_head (by rintro d ⟨⟩; decide)
    simpa [isFrame, htrim, hstart, or_assoc] using hrest

theorem read_eq_frame_iff : Line.read line = .frame ↔ Frames line := by
  rw [← isFrame_iff]
  by_cases h : isFrame line
  · simp [Line.read, h]
  · simp only [Line.read, h, Bool.false_eq_true, if_false, iff_false]
    repeat' split
    all_goals exact Line.noConfusion

end Frames

section Lines

namespace Line

/-- Every line is one declaration, unknown or a frame. -/
theorem length_declarations (ls : List Line) :
    (ls.filterMap primary?).length + (ls.filterMap (key? .unique)).length +
      (ls.filterMap (key? .ordinary)).length + (ls.filterMap column?).length + ls.count .unknown +
        ls.count .frame = ls.length := by
  induction ls with
  | nil => rfl
  | cons l ls ih =>
    rcases l with _ | spec | ⟨_ | _, k⟩ | c | _ <;>
      simp [List.filterMap_cons, primary?, key?, column?, step?, BuildStep.primary?,
        BuildStep.key?, BuildStep.column?] <;> omega

end Line

/-- Whether a notice tells of a line in front of that of another one. -/
def Notice.Precedes : Notice → Notice → Prop
  | .skippedLine _ k _, .skippedLine _ l _ => k < l
  | _, _ => False

/-- Whether a table and notices keep all that the lines of a block say: the declarations are in the
table, in the order of the lines, a column with a repeated name in the place of the former one, and
the unknown lines are in the notices, in their order, with their number and as they stand there. -/
structure KeepsLines (name block : Text) (t : Table) (ns : List Notice) : Prop where
  named : t.name = name
  content : t.content = block
  columns : t.columns = putColumns [] ((entries block).filterMap Line.column?)
  primary : t.primary = (entries block).filterMap Line.primary?
  keys : ∀ kind, t.keysOf kind = (entries block).filterMap (Line.key? kind)
  notices : ∀ n, n ∈ ns ↔ ∃ i line, block.lines[i]? = some line ∧ Line.read line = .unknown ∧
    n = .skippedLine name (i + 1) line
  order : ns.Pairwise Notice.Precedes
  balance : t.primary.length + t.uniqueKeys.length + t.keys.length +
    ((entries block).filterMap Line.column?).length + ns.length + (entries block).count .frame =
      block.lines.length

variable {name block : Text}

theorem mem_skippedLines {n : Notice} : n ∈ skippedLines name block ↔
    ∃ i line, block.lines[i]? = some line ∧ Line.read line = .unknown ∧
      n = .skippedLine name (i + 1) line := by
  simp only [skippedLines, List.mem_filterMap, Prod.exists,
    List.mk_mem_zipIdx_iff_le_and_getElem?_sub, Option.ite_none_right_eq_some, Option.some.injEq]
  constructor
  · rintro ⟨line, number, ⟨hnumber, hline⟩, hread, rfl⟩
    exact ⟨number - 1, line, hline, hread, by rw [Nat.sub_add_cancel hnumber]⟩
  · rintro ⟨i, line, hline, hread, rfl⟩
    exact ⟨line, i + 1, ⟨Nat.le_add_left 1 i, hline⟩, hread, rfl⟩

theorem pairwise_skippedLines (name block : Text) :
    (skippedLines name block).Pairwise Notice.Precedes := by
  have hnumbers : (block.lines.zipIdx 1).Pairwise (fun p q => p.2 < q.2) := by
    rw [← List.pairwise_map (f := Prod.snd) (R := (· < ·)), List.zipIdx_map_snd]
    exact List.pairwise_lt_range' 1
  rw [skippedLines, List.pairwise_filterMap]
  refine hnumbers.imp ?_
  rintro ⟨line, k⟩ ⟨line', l⟩ hkl n hn n' hn'
  simp only [Option.ite_none_right_eq_some, Option.some.injEq] at hn hn'
  obtain ⟨-, rfl⟩ := hn
  obtain ⟨-, rfl⟩ := hn'
  exact hkl

/-- Every unknown line is skipped with one notice. -/
theorem length_skippedLines (name block : Text) :
    (skippedLines name block).length = (entries block).count .unknown := by
  have hsome (p : Text × Nat) : (if Line.read p.1 = .unknown then
      some (Notice.skippedLine name p.2 p.1) else none).isSome = (Line.read p.1 == .unknown) := by
    by_cases h : Line.read p.1 = .unknown <;> simp [h]
  calc (skippedLines name block).length
    _ = (block.lines.zipIdx 1).countP (fun p => Line.read p.1 == .unknown) := by
      simp only [skippedLines, List.length_filterMap_eq_countP, hsome]
    _ = block.lines.countP (fun line => Line.read line == .unknown) := by
      conv_rhs => rw [← List.zipIdx_map_fst 1 block.lines, List.countP_map]
      rfl
    _ = (entries block).count .unknown := by rw [List.count, entries, List.countP_map]; rfl

theorem keepsLines (name block : Text) :
    KeepsLines name block (tableOf name block) (skippedLines name block) where
  named := by rw [tableOf_eq]
  content := by rw [tableOf_eq]
  columns := by rw [tableOf_eq]
  primary := by rw [tableOf_eq]
  keys kind := by rw [tableOf_eq]; cases kind <;> rfl
  notices _ := mem_skippedLines
  order := pairwise_skippedLines name block
  balance := by
    rw [tableOf_eq, length_skippedLines, Line.length_declarations, entries, List.length_map]

end Lines

section Blocks

/-- Whether a reading keeps all of the block of an index: a block without a name is told of by its
index, and any other one gives one table of its name and the notices of its lines. -/
structure KeepsBlock (index : Nat) (block : Text) (r : Reading) : Prop where
  tables : r.tables = [] ↔ Nameless block
  unnamed : Nameless block → r.notices = [.unnamedBlock index]
  named : ¬ Nameless block → ∃ name t, Named block name ∧ r.tables = [t] ∧
    KeepsLines name block t r.notices

theorem keepsBlock (index : Nat) (block : Text) :
    KeepsBlock index block (readBlock index block) := by
  cases hname : tableName? block with
  | none =>
    have hnameless : Nameless block := tableName?_eq_none_iff.mp hname
    simp only [readBlock, hname]
    exact ⟨by simp [hnameless], fun _ => rfl, fun h => absurd hnameless h⟩
  | some name =>
    have hnamed : ¬ Nameless block := by
      rw [← tableName?_eq_none_iff, hname]
      exact Option.some_ne_none name
    simp only [readBlock, hname]
    exact ⟨by simp [hnamed], fun h => absurd h hnamed, fun _ =>
      ⟨name, tableOf name block, tableName?_eq_some_iff.mp hname, rfl, keepsLines name block⟩⟩

theorem length_readBlock (index : Nat) (block : Text) :
    (readBlock index block).tables.length +
      (readBlock index block).notices.countP Notice.dropsTable = 1 := by
  cases hname : tableName? block with
  | none => simp [readBlock, hname, Notice.dropsTable]
  | some name =>
    have hkept : (skippedLines name block).countP Notice.dropsTable = 0 := by
      rw [List.countP_eq_zero]
      intro n hn
      obtain ⟨i, line, -, -, rfl⟩ := mem_skippedLines.mp hn
      exact Bool.false_ne_true
    simp [readBlock, hname, hkept]

theorem length_readingsFrom (k : Nat) (bs : List Text) :
    ((readingsFrom k bs).flatMap Reading.tables).length +
      ((readingsFrom k bs).flatMap Reading.notices).countP Notice.dropsTable = bs.length := by
  induction bs generalizing k with
  | nil => rfl
  | cons b bs ih =>
    have hb := length_readBlock k b
    have hbs := ih (k + 1)
    rw [readingsFrom_cons, List.flatMap_cons, List.flatMap_cons, List.length_append,
      List.countP_append, List.length_cons]
    omega

/-- Nothing in a dump is lost unreported: each block gives its own part of what is read, a line is
passed over only when it frames a block, and every block is a table or a notice. -/
theorem read_keeps (t : Text) :
    (∃ parts : List Reading, parts.length = (blocks t).length ∧
      (∀ i block part, (blocks t)[i]? = some block → parts[i]? = some part →
        KeepsBlock i block part) ∧
      (read t).tables = parts.flatMap Reading.tables ∧
      (read t).notices = parts.flatMap Reading.notices) ∧
    (∀ line, Line.read line = .frame ↔ Frames line) ∧
    (read t).tables.length + (read t).notices.countP Notice.dropsTable = (blocks t).length := by
  have hlength : (readingsFrom 0 (blocks t)).length = (blocks t).length := by
    rw [readingsFrom, List.length_map, List.length_zipIdx]
  have hparts : ∀ i block part, (blocks t)[i]? = some block →
      (readingsFrom 0 (blocks t))[i]? = some part → KeepsBlock i block part := by
    intro i block part hblock hpart
    have hread : part = readBlock i block := by
      simpa [readingsFrom, List.getElem?_map, List.getElem?_zipIdx, hblock] using hpart.symm
    rw [hread]
    exact keepsBlock i block
  exact ⟨⟨readingsFrom 0 (blocks t), hlength, hparts, rfl, rfl⟩, fun line => read_eq_frame_iff,
    length_readingsFrom 0 (blocks t)⟩

end Blocks

end SchemaDrift.Dump
