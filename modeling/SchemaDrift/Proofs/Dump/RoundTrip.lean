import SchemaDrift.Dump.Reading
import SchemaDrift.Proofs.Dump.BlockLines
import SchemaDrift.Proofs.Dump.Conservation

namespace SchemaDrift.Dump

theorem Declaration.step?_line (d : Declaration) : d.line.step? = some d.step := by
  cases d <;> rfl

theorem Declaration.line_ne_unknown (d : Declaration) : d.line ≠ .unknown := by
  cases d <;> exact Line.noConfusion

namespace Layout

variable {l : Layout} {line : Text}

section Reading

theorem isFrame_header (l : Layout) : isFrame l.header := by
  have hprefix : ("CREATE" : Text).isPrefixOf l.header := rfl
  have htrim : Text.trimStart l.header = l.header :=
    Text.trimStart_of_head (s := l.header) (by rintro d ⟨⟩; decide)
  simp only [isFrame, htrim, hprefix, Bool.or_true, Bool.true_or]

theorem isFrame_footer (l : Layout) : isFrame l.footer := by
  have htrim : Text.trimStart l.footer = l.footer :=
    Text.trimStart_of_head (s := l.footer) (by rintro d ⟨⟩; decide)
  have hhead : l.footer.head? = some ')' := rfl
  simp only [isFrame, htrim, hhead, decide_true, Bool.or_true]

theorem read_ne_unknown (h : l.Plain) (hline : line ∈ l.lines) : Line.read line ≠ .unknown := by
  rcases mem_lines.mp hline with rfl | hbody | rfl
  · rw [read_of_isFrame (isFrame_header l)]
    exact Line.noConfusion
  · rcases mem_bodyLines hbody with rfl | ⟨d, hd, trail, htrail, rfl⟩
    · exact Line.noConfusion
    · rw [read_indented (h.body d hd) htrail]
      exact d.line_ne_unknown
  · rw [read_of_isFrame (isFrame_footer l)]
    exact Line.noConfusion

theorem steps_lines (h : l.Plain) :
    l.lines.filterMap (fun line => (Line.read line).step?) = l.body.map Declaration.step := by
  have hheader : (Line.read l.header).step? = none := by
    rw [read_of_isFrame (isFrame_header l), Line.step?]
  have hfooter : (Line.read l.footer).step? = none := by
    rw [read_of_isFrame (isFrame_footer l), Line.step?]
  have hstep : ∀ d ∈ l.body, (Line.read d.indented).step? = some d.step := by
    intro d hd
    rw [← List.append_nil d.indented, read_indented (h.body d hd) (.inl rfl), d.step?_line]
  have hbody : (commaLines (l.body.map Declaration.indented)).filterMap
      (fun line => (Line.read line).step?) = l.body.map Declaration.step := by
    rw [filterMap_commaLines rfl, List.filterMap_map]
    · exact (List.filterMap_congr hstep).trans (congrFun List.filterMap_eq_map l.body)
    · intro t ht
      obtain ⟨d, hd, rfl⟩ := List.mem_map.mp ht
      rw [hstep d hd, read_indented (h.body d hd) (.inr rfl), d.step?_line]
  simp only [lines, List.filterMap_append, List.filterMap_cons, hheader, hbody, hfooter,
    List.filterMap_nil, List.append_nil]

theorem exists_block_eq (l : Layout) :
    ∃ behind, l.block = opening ++ Text.tick :: (l.name ++ Text.tick :: behind) := by
  have hblock := l.block_eq
  rw [l.header_eq] at hblock
  simp only [List.append_assoc, List.cons_append] at hblock
  exact ⟨_, hblock⟩

theorem tableName?_block (h : l.Plain) : tableName? l.block = some l.name := by
  obtain ⟨behind, hblock⟩ := l.exists_block_eq
  have hbreak : '\n' ∉ opening ++ l.name := by
    rw [List.mem_append, not_or]
    exact ⟨by decide, h.breaks l.name List.mem_cons_self⟩
  rw [hblock]
  exact tableName?_append (by decide) h.name hbreak behind

end Reading

end Layout

theorem Layout.tableOf_block {l : Layout} (h : l.Plain) : tableOf l.name l.block = l.table := by
  have hcolumn : BuildStep.column? ∘ Declaration.step = Declaration.column? := by
    funext d
    cases d <;> rfl
  have hprimary : BuildStep.primary? ∘ Declaration.step = Declaration.primary? := by
    funext d
    cases d <;> rfl
  have hkey (kind : KeyKind) :
      BuildStep.key? kind ∘ Declaration.step = Declaration.key? kind := by
    funext d
    cases d <;> rfl
  have hcontent : (l.body.map Declaration.step).filterMap BuildStep.content? = [] := by
    rw [List.filterMap_map, List.filterMap_eq_nil_iff]
    rintro (_ | _ | _) - <;> rfl
  have hcolumns : putColumns [] (l.body.filterMap Declaration.column?) =
      l.body.filterMap Declaration.column? := putColumns_of_nodup h.columns
  rw [tableOf, l.lines_block h, Layout.steps_lines h, Table.build_content _ _ hcontent]
  simp only [List.filterMap_map, hcolumn, hprimary, hkey, hcolumns]
  rfl

theorem Layout.skippedLines_block {l : Layout} (h : l.Plain) : skippedLines l.name l.block = [] := by
  rw [skippedLines, List.filterMap_eq_nil_iff, Layout.lines_block h]
  rintro ⟨line, number⟩ hline
  have hmem : line ∈ l.lines := List.fst_mem_of_mem_zipIdx hline
  exact if_neg (Layout.read_ne_unknown h hmem)

/-- A plain table is read from its wording without loss. -/
theorem Layout.readBlock_block {l : Layout} (h : l.Plain) (index : Nat) :
    readBlock index l.block = { tables := [l.table] } := by
  simp only [readBlock, Layout.tableName?_block h, Layout.tableOf_block h, Layout.skippedLines_block h]

/-- The wording of a plain table is a block by itself: its first engine mark is not in the opening. -/
theorem Layout.isBlock_block {l : Layout} (h : l.Plain) : IsBlock l.block := by
  obtain ⟨behind, hblock⟩ := l.exists_block_eq
  generalize l.name ++ Text.tick :: behind = rest at hblock
  have hclear : Text.Clear engine opening (Text.tick :: rest) := by
    refine Text.clear_of_head (by decide) ?_
    rintro c ⟨⟩
    decide
  have hfooter : engine <:+: l.footer := ⟨[')'], l.options, rfl⟩
  have hengine : engine <:+: l.block := by
    have hsuffix : l.footer <:+ l.block := by
      rw [l.block_eq, ← List.singleton_append (l := l.footer), ← List.append_assoc,
        ← List.cons_append, ← List.append_assoc]
      exact List.suffix_append _ _
    exact hfooter.trans hsuffix.isInfix
  obtain ⟨found, hfound⟩ := Option.ne_none_iff_exists'.mp fun hnone =>
    Text.fromFirst?_eq_none_iff.mp hnone hengine
  refine ⟨⟨Text.tick :: rest, hblock.symm⟩, found, ?_, h.options found hfound⟩
  have hskip : Text.fromFirst? engine l.block = Text.fromFirst? engine (Text.tick :: rest) := by
    rw [hblock]
    exact Text.fromFirst?_append_of_clear hclear
  rw [hblock]
  exact (congrArg (Text.fromFirst? engine) List.drop_left).trans (hskip.symm.trans hfound)

/-- The blocks of a dump are the wordings of its tables. -/
theorem blocks_written {lead : Text} {parts : List (Layout × Text)} (hlead : ¬ opening <:+: lead)
    (hnoise : ∀ p ∈ parts, ¬ opening <:+: p.2) (hplain : ∀ p ∈ parts, p.1.Plain) :
    blocks (written lead parts) = parts.map fun p => p.1.block := by
  induction parts generalizing lead with
  | nil =>
    rw [written, List.flatMap_nil, List.append_nil]
    exact blocks_eq_nil hlead
  | cons p parts ih =>
    -- behind the first table its semicolon and noise stand in front of the others
    have hsplit : written lead (p :: parts) = lead ++ (p.1.block ++ written (';' :: p.2) parts) := by
      simp [written]
    have hclear : Text.Clear opening lead (p.1.block ++ written (';' :: p.2) parts) := by
      refine Text.clear_of_head hlead ?_
      rintro c ⟨⟩
      decide
    have hends : Ends (written (';' :: p.2) parts) := by
      rintro c ⟨⟩
      rfl
    have hlead' : ¬ opening <:+: ';' :: p.2 := by
      rw [List.infix_cons_iff, not_or]
      refine ⟨fun h => ?_, hnoise p List.mem_cons_self⟩
      exact absurd (List.cons_prefix_cons.mp h).1 (by decide)
    have hblock : IsBlock p.1.block := Layout.isBlock_block (hplain p List.mem_cons_self)
    rw [hsplit, blocks_append_of_clear hclear, blocks_block_append hblock hends,
      ih hlead' (fun q hq => hnoise q (List.mem_cons_of_mem _ hq))
        (fun q hq => hplain q (List.mem_cons_of_mem _ hq)), List.map_cons]

/-- A dump of plain tables gives these tables back, in their order, and nothing of it is skipped. -/
theorem read_written {lead : Text} {parts : List (Layout × Text)}
    (hlead : ¬ ("CREATE TABLE " : Text) <:+: lead)
    (hnoise : ∀ p ∈ parts, ¬ ("CREATE TABLE " : Text) <:+: p.2) (hplain : ∀ p ∈ parts, p.1.Plain) :
    read (written lead parts) = { tables := parts.map fun p => p.1.table, notices := [] } := by
  have hblocks := blocks_written hlead hnoise hplain
  have htables : tables (written lead parts) = parts.map fun p => p.1.table := by
    have htable : ∀ p ∈ parts, blockTable? p.1.block = some p.1.table := by
      intro p hp
      rw [blockTable?, Layout.tableName?_block (hplain p hp), Option.map_some,
        Layout.tableOf_block (hplain p hp)]
    rw [tables_eq, hblocks, List.filterMap_map]
    exact (List.filterMap_congr htable).trans (congrFun List.filterMap_eq_map parts)
  have hnotices : (read (written lead parts)).notices = [] := by
    rw [read, hblocks, List.flatMap_eq_nil_iff]
    intro r hr
    obtain ⟨⟨b, index⟩, hb, rfl⟩ := List.mem_map.mp hr
    obtain ⟨p, hp, rfl⟩ := List.mem_map.mp (List.fst_mem_of_mem_zipIdx hb)
    exact congrArg Reading.notices (Layout.readBlock_block (hplain p hp) index)
  calc read (written lead parts)
    _ = { tables := tables (written lead parts), notices := (read (written lead parts)).notices } := rfl
    _ = { tables := parts.map fun p => p.1.table, notices := [] } := by rw [htables, hnotices]

/-- A key whose name holds a tick and a parenthesis, in front of the column it is for, and a
semicolon inside a definition. -/
theorem read_written_key_first :
    let l : Layout := {
      name := "t"
      body := [.key .unique ⟨"k` (", "`a`,`b`"⟩, .primary "`a`", .column ⟨"a", "text DEFAULT ';`'"⟩]
      options := "=InnoDB" }
    let lead : Text := "DROP TABLE `t`;\n"
    (¬ ("CREATE TABLE " : Text) <:+: lead ∧ l.Plain) ∧
    read (written lead [(l, "\n-- done")]) =
      { tables := [{
          name := "t"
          columns := [⟨"a", "text DEFAULT ';`'"⟩]
          primary := ["`a`"]
          uniqueKeys := [⟨"k` (", "`a`,`b`"⟩]
          content := l.block }]
        notices := [] } := by
  intro l lead
  have hlead : ¬ ("CREATE TABLE " : Text) <:+: lead := by decide
  have hkey : (Declaration.key .unique ⟨"k` (", "`a`,`b`"⟩).Plain := by
    intro blanks _ _ h
    exact absurd (h.subset (List.mem_cons_of_mem _ (List.mem_append_right _ List.mem_cons_self)))
      (by decide)
  have hcolumn : (Declaration.column ⟨"a", "text DEFAULT ';`'"⟩).Plain := by
    refine ⟨by decide, by decide, ?_, by decide, by decide⟩
    rintro d ⟨⟩
    decide
  have hplain : l.Plain := {
    name := by decide
    breaks := by decide
    body := by
      intro d hd
      simp only [l, List.mem_cons, List.not_mem_nil, or_false] at hd
      rcases hd with rfl | rfl | rfl
      · exact hkey
      · trivial
      · exact hcolumn
    columns := by decide
    options := by decide }
  refine ⟨⟨hlead, hplain⟩, ?_⟩
  have hnoise : ∀ p ∈ [(l, ("\n-- done" : Text))], ¬ ("CREATE TABLE " : Text) <:+: p.2 := by
    intro p hp
    rw [List.mem_singleton.mp hp]
    decide
  rw [read_written hlead hnoise]
  · rfl
  · intro p hp
    rwa [List.mem_singleton.mp hp]

end SchemaDrift.Dump
