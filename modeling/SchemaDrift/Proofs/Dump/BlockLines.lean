import SchemaDrift.Proofs.Dump.LineReading

namespace SchemaDrift.Dump

section CommaLines

/-- The lines of declarations of which every one but the last is followed by a comma. No
declarations leave a blank line. -/
def commaLines : List Text → List Text
  | [] => [[]]
  | [t] => [t]
  | t :: u :: r => (t ++ [',']) :: commaLines (u :: r)

theorem commaLines_ne_nil (ts : List Text) : commaLines ts ≠ [] := by
  fun_cases commaLines ts <;> exact List.cons_ne_nil _ _

theorem intercalate_commaLines (ts : List Text) :
    List.intercalate (",\n" : Text) ts = List.intercalate ['\n'] (commaLines ts) := by
  fun_induction commaLines ts with
  | case1 => rfl
  | case2 => simp
  | case3 t u r ih =>
    rw [List.intercalate_cons_cons, List.intercalate_cons_of_ne_nil (commaLines_ne_nil _), ih]
    simp

theorem mem_commaLines {ts : List Text} {line : Text} (h : line ∈ commaLines ts) :
    line = [] ∨ ∃ t ∈ ts, line = t ∨ line = t ++ [','] := by
  fun_induction commaLines ts with
  | case1 => exact .inl (List.mem_singleton.mp h)
  | case2 t => exact .inr ⟨t, List.mem_singleton_self t, .inl (List.mem_singleton.mp h)⟩
  | case3 t u r ih =>
    rcases List.mem_cons.mp h with rfl | h
    · exact .inr ⟨t, List.mem_cons_self, .inr rfl⟩
    · rcases ih h with rfl | ⟨t', ht', hline⟩
      · exact .inl rfl
      · exact .inr ⟨t', List.mem_cons_of_mem _ ht', hline⟩

/-- What is read from each line by itself does not depend on the commas. -/
theorem filterMap_commaLines {α : Type} {f : Text → Option α} (hnil : f [] = none) {ts : List Text}
    (hcomma : ∀ t ∈ ts, f (t ++ [',']) = f t) : (commaLines ts).filterMap f = ts.filterMap f := by
  fun_induction commaLines ts with
  | case1 => simp [hnil]
  | case2 => rfl
  | case3 t u r ih =>
    rw [List.filterMap_cons, List.filterMap_cons, hcomma t List.mem_cons_self,
      ih fun t' ht' => hcomma t' (List.mem_cons_of_mem _ ht')]

end CommaLines

namespace Declaration

variable {d : Declaration} {trail : Text}

theorem break_notMem_indented (h : ∀ p ∈ d.parts, '\n' ∉ p) : '\n' ∉ d.indented := by
  rw [← List.append_nil d.indented]
  cases d with
  | column c =>
    rw [indented_column]
    simp_all [parts, Text.tick]
  | primary spec =>
    rw [indented_primary]
    simp_all [parts]
  | key kind k =>
    have hkeyword : '\n' ∉ KeyKind.keyword kind := by
      cases kind <;> decide
    rw [indented_key]
    simp_all [parts, Text.tick]

theorem getLast?_indented_ne (h : d.Plain) : d.indented.getLast? ≠ some '\r' := by
  have hclosed (a b : Text) : (a ++ (b ++ (")" : Text))).getLast? ≠ some '\r' := by
    rw [← List.append_assoc, List.getLast?_append_of_ne_nil _ (by decide)]
    decide
  cases d with
  | column c =>
    obtain ⟨-, hdefinition, -, -, hreturn⟩ := h
    change (("  " : Text) ++ (quoteIdentifier c.name ++ " " ++ c.definition)).getLast? ≠ _
    rwa [← List.append_assoc, List.getLast?_append_of_ne_nil _ hdefinition]
  | primary spec => exact hclosed "  " ("PRIMARY KEY (" ++ spec)
  | key kind k =>
    cases kind with
    | ordinary => exact hclosed "  " ("KEY " ++ quoteIdentifier k.name ++ " (" ++ k.spec)
    | unique => exact hclosed "  " ("UNIQUE KEY " ++ quoteIdentifier k.name ++ " (" ++ k.spec)

end Declaration

namespace Layout

variable {l : Layout} {line : Text}

/-- The line that opens the wording. -/
def header (l : Layout) : Text := "CREATE TABLE " ++ quoteIdentifier l.name ++ " ("

/-- The line that closes the wording. -/
def footer (l : Layout) : Text := ") ENGINE" ++ l.options

def lines (l : Layout) : List Text :=
  (l.header :: commaLines (l.body.map Declaration.indented)) ++ [l.footer]

theorem header_eq (l : Layout) :
    l.header = ("CREATE TABLE " : Text) ++ Text.tick :: (l.name ++ [Text.tick, ' ', '(']) := by
  change ("CREATE TABLE " : Text) ++ quoteIdentifier l.name ++ " (" = _
  simp [quoteIdentifier]

theorem block_eq (l : Layout) :
    l.block = l.header ++ '\n' ::
      (List.intercalate ['\n'] (commaLines (l.body.map Declaration.indented)) ++ '\n' :: l.footer) := by
  rw [← intercalate_commaLines]
  change ("CREATE TABLE " : Text) ++ quoteIdentifier l.name ++ " (\n" ++
    List.intercalate (",\n" : Text) (l.body.map Declaration.indented) ++ "\n) ENGINE" ++ l.options =
    ("CREATE TABLE " ++ quoteIdentifier l.name ++ " (") ++ '\n' ::
      (List.intercalate (",\n" : Text) (l.body.map Declaration.indented) ++
        '\n' :: ((") ENGINE" : Text) ++ l.options))
  simp

theorem block_eq_intercalate (l : Layout) : l.block = List.intercalate ['\n'] l.lines := by
  have hbody : commaLines (l.body.map Declaration.indented) ≠ [] := commaLines_ne_nil _
  rw [block_eq, lines, List.cons_append, List.intercalate_cons_of_ne_nil
    (List.append_ne_nil_of_left_ne_nil hbody _), Text.intercalate_concat hbody]
  simp

theorem mem_bodyLines (h : line ∈ commaLines (l.body.map Declaration.indented)) :
    line = [] ∨ ∃ d ∈ l.body, ∃ trail, (trail = [] ∨ trail = [',']) ∧ line = d.indented ++ trail := by
  rcases mem_commaLines h with h | ⟨t, ht, hline⟩
  · exact .inl h
  · obtain ⟨d, hd, rfl⟩ := List.mem_map.mp ht
    refine .inr ⟨d, hd, ?_⟩
    rcases hline with rfl | rfl
    · exact ⟨[], .inl rfl, (List.append_nil _).symm⟩
    · exact ⟨[','], .inr rfl, rfl⟩

theorem mem_lines : line ∈ l.lines ↔
    line = l.header ∨ line ∈ commaLines (l.body.map Declaration.indented) ∨ line = l.footer := by
  simp only [lines, List.mem_append, List.mem_cons, List.not_mem_nil, or_false, or_assoc]

theorem break_notMem_lines (h : l.Plain) (hline : line ∈ l.lines) : '\n' ∉ line := by
  have hparts := h.breaks
  rcases mem_lines.mp hline with rfl | hbody | rfl
  · have hname : '\n' ∉ l.name := hparts l.name List.mem_cons_self
    rw [header_eq]
    simp [hname, Text.tick]
  · rcases mem_bodyLines hbody with rfl | ⟨d, hd, trail, htrail, rfl⟩
    · exact List.not_mem_nil
    · have hindented : '\n' ∉ d.indented := by
        apply Declaration.break_notMem_indented
        intro p hp
        have hmem : p ∈ l.body.flatMap Declaration.parts := List.mem_flatMap.mpr ⟨d, hd, hp⟩
        exact hparts p (List.mem_cons_of_mem _ (List.mem_cons_of_mem _ hmem))
      rcases htrail with rfl | rfl <;> simp [hindented]
  · have hoptions : '\n' ∉ l.options := hparts l.options (List.mem_cons_of_mem _ List.mem_cons_self)
    change '\n' ∉ (") ENGINE" : Text) ++ l.options
    simp [hoptions]

theorem getLast?_ne_return (h : l.Plain)
    (hline : line ∈ l.header :: commaLines (l.body.map Declaration.indented)) :
    line.getLast? ≠ some '\r' := by
  rcases List.mem_cons.mp hline with rfl | hbody
  · have hlast : l.header.getLast? = some '(' := by
      change (("CREATE TABLE " : Text) ++ quoteIdentifier l.name ++ " (").getLast? = some '('
      rw [List.getLast?_append_of_ne_nil _ (by decide)]
      decide
    rw [hlast]
    decide
  · rcases mem_bodyLines hbody with rfl | ⟨d, hd, trail, htrail, rfl⟩
    · decide
    · rcases htrail with rfl | rfl
      · rw [List.append_nil]
        exact Declaration.getLast?_indented_ne (h.body d hd)
      · rw [List.getLast?_concat]
        decide

theorem lines_block (h : l.Plain) : l.block.lines = l.lines := by
  rw [block_eq_intercalate]
  apply Text.lines_intercalate
  · exact fun line hline => break_notMem_lines h hline
  · exact fun line hline => getLast?_ne_return h hline
  · exact List.cons_ne_nil ')' _

end Layout

end SchemaDrift.Dump
