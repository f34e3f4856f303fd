import SchemaDrift.Proofs.Dump.Conservation
import SchemaDrift.Proofs.Dump.KeyLines

namespace SchemaDrift.Dump

section Columns

variable {s definition line : Text} {c : Column}

/-- A definition is no empty text, and it stands in the text behind the name. -/
theorem infix_of_columnDefinition? (h : columnDefinition? s = some definition) :
    definition ≠ [] ∧ definition <:+: s := by
  rcases s with _ | ⟨c, _ | ⟨d, r⟩⟩
  · cases h
  · cases h
  by_cases hc : Text.isBlank c
  case neg => simp [columnDefinition?, hc] at h
  have htrim : Text.trimStart (d :: r) <:+ c :: d :: r :=
    (List.dropWhile_suffix _).trans (List.suffix_cons c (d :: r))
  cases ht : Text.trimStart (d :: r) with
  | nil =>
    -- of blanks alone the last one is the definition
    obtain ⟨e, he, rfl⟩ : ∃ e, (d :: r).getLast? = some e ∧ [e] = definition := by
      simpa [columnDefinition?, hc, ht] using h
    refine ⟨List.cons_ne_nil e [], ?_⟩
    obtain ⟨front, hfront⟩ := List.getLast?_eq_some_iff.mp he
    exact ⟨c :: front, [], by rw [List.append_nil, List.cons_append, hfront]⟩
  | cons e t =>
    rw [ht] at htrim
    simp only [columnDefinition?, hc, if_true, ht, Option.some.injEq] at h
    subst h
    split
    · have hprefix : e :: t.dropLast <+: e :: t := List.cons_prefix_cons.mpr ⟨rfl, List.dropLast_prefix t⟩
      exact ⟨List.cons_ne_nil _ _, hprefix.isInfix.trans htrim.isInfix⟩
    · exact ⟨List.cons_ne_nil _ _, htrim.isInfix⟩

theorem exists_of_shortestColumn? (h : shortestColumn? s = some c) :
    ∃ behind, s = c.name ++ Text.tick :: behind ∧ columnDefinition? behind = some c.definition := by
  induction s generalizing c with
  | nil => cases h
  | cons d s ih =>
    rw [shortestColumn?] at h
    split at h
    next definition hdefinition =>
      cases h
      by_cases hd : d = Text.tick
      · rw [if_pos hd] at hdefinition
        exact ⟨s, by rw [hd]; rfl, hdefinition⟩
      · rw [if_neg hd] at hdefinition
        cases hdefinition
    next =>
      obtain ⟨k, hk, rfl⟩ := Option.map_eq_some_iff.mp h
      obtain ⟨behind, rfl, hdefinition⟩ := ih hk
      exact ⟨behind, rfl, hdefinition⟩

theorem infix_of_read_column (h : Line.read line = .column c) :
    c.definition ≠ [] ∧ c.name <:+: line ∧ c.definition <:+: line := by
  obtain ⟨r, hr, hc⟩ := Option.bind_eq_some_iff.mp (read_eq_column_iff.mp h)
  obtain ⟨behind, rfl, hdefinition⟩ := exists_of_shortestColumn? hc
  obtain ⟨hne, hstands⟩ := infix_of_columnDefinition? hdefinition
  obtain ⟨blanks, hline, -⟩ := Text.exists_blanks_trimStart line
  have hpieces : line = blanks ++ (Text.tick :: (c.name ++ Text.tick :: behind)) := by
    rw [hline, Text.dropStart?_eq_some_iff.mp hr]
    rfl
  refine ⟨hne, ⟨blanks ++ [Text.tick], Text.tick :: behind, ?_⟩, hstands.trans ?_⟩
  · rw [hpieces]
    simp
  · exact ⟨blanks ++ Text.tick :: (c.name ++ [Text.tick]), [], by rw [hpieces]; simp⟩

end Columns

section Keys

variable {line : Text} {kind : KeyKind} {k : Key}

theorem infix_of_read_key (h : Line.read line = .key kind k) : k.name <:+: line ∧ k.spec <:+: line := by
  obtain ⟨behind, rest, ⟨lead, gap, -, -, rfl⟩, ⟨gap', -, rfl⟩, -⟩ :=
    read_eq_key_iff_endsLast.mp h
  let quoted : Text := lead ++ (KeyKind.keyword kind ++ (gap ++ [Text.tick]))
  constructor
  · exact ⟨quoted, Text.tick :: (gap' ++ '(' :: (k.spec ++ ')' :: rest)), by simp [quoted]⟩
  · exact ⟨quoted ++ (k.name ++ Text.tick :: (gap' ++ ['('])), ')' :: rest, by simp [quoted]⟩

end Keys

section Tables

variable {d : Text} {t : Table} {c : Column} {kind : KeyKind} {k : Key}

theorem content_mem_blocks (h : t ∈ tables d) : t.content ∈ blocks d := by
  have hcontent : t.content ∈ (tables d).map Table.content := List.mem_map_of_mem h
  rw [content_tables] at hcontent
  exact List.mem_of_mem_filter hcontent

theorem exists_eq_tableOf (h : t ∈ tables d) :
    ∃ name, tableName? t.content = some name ∧ tableOf name t.content = t :=
  Option.map_eq_some_iff.mp (isBlock_content h).2

/-- The name of a table is free of ticks and stands on one line. -/
theorem name_of_mem_tables (h : t ∈ tables d) : Text.tick ∉ t.name ∧ '\n' ∉ t.name := by
  obtain ⟨name, hname, ht⟩ := exists_eq_tableOf h
  have hn : t.name = name := by rw [← ht, tableOf_eq]
  obtain ⟨above, line, below, hlines, -, before, behind, rfl, -, htick⟩ := tableName?_eq_some_iff.mp hname
  have hbreak : '\n' ∉ before ++ Text.tick :: (name ++ Text.tick :: behind) := by
    apply Text.notMem_of_mem_splitOn (t := t.content)
    rw [hlines]
    exact List.mem_append_right above List.mem_cons_self
  rw [hn]
  refine ⟨htick, fun hmem => hbreak ?_⟩
  exact List.mem_append_right before (List.mem_cons_of_mem _ (List.mem_append_left _ hmem))

theorem exists_line_of_mem_columns (h : t ∈ tables d) (hc : c ∈ t.columns) :
    ∃ line ∈ t.content.lines, Line.read line = .column c := by
  obtain ⟨name, -, ht⟩ := exists_eq_tableOf h
  rw [← ht, tableOf_eq] at hc
  have hentry := (mem_or_mem_of_mem_putColumns hc).resolve_left List.not_mem_nil
  obtain ⟨l, hl, hcolumn⟩ := List.mem_filterMap.mp hentry
  obtain ⟨line, hline, rfl⟩ := List.mem_map.mp hl
  refine ⟨line, hline, ?_⟩
  cases hread : Line.read line <;> rw [hread] at hcolumn <;> cases hcolumn
  rfl

theorem exists_line_of_mem_keysOf (h : t ∈ tables d) (hk : k ∈ t.keysOf kind) :
    ∃ line ∈ t.content.lines, Line.read line = .key kind k := by
  obtain ⟨name, -, ht⟩ := exists_eq_tableOf h
  have hentry : k ∈ (entries t.content).filterMap (Line.key? kind) := by
    rw [← ht, tableOf_eq] at hk
    cases kind <;> exact hk
  obtain ⟨l, hl, hkey⟩ := List.mem_filterMap.mp hentry
  obtain ⟨line, hline, rfl⟩ := List.mem_map.mp hl
  refine ⟨line, hline, ?_⟩
  cases hread : Line.read line with
  | key kind' k' =>
    rw [hread] at hkey
    simpa [Line.key?, Line.step?, BuildStep.key?] using hkey
  | _ =>
    rw [hread] at hkey
    cases hkey

end Tables

end SchemaDrift.Dump
