import SchemaDrift.Proofs.Dump.KeyLines
import SchemaDrift.Proofs.Dump.Layout

namespace SchemaDrift.Dump

section Spec

variable {spec trail : Text}

theorem keySpec?_parenthesized (h : ')' ∉ trail) :
    keySpec? (' ' :: '(' :: (spec ++ ')' :: trail)) = some spec := by
  have hblank : Text.isBlank ' ' := by decide
  have hgap : Gap [' '] := ⟨List.cons_ne_nil _ _, by simpa using hblank⟩
  exact keySpec?_eq_some_iff.mpr ⟨trail, ⟨[' '], hgap, rfl⟩, h⟩

/-- In the wording of a plain key no tick behind the name is taken for the end of a name. -/
theorem longestKey?_parenthesized {k : Key} {kind : KeyKind} (hk : (Declaration.key kind k).Plain)
    (htick : Text.tick ∉ trail) :
    longestKey? (' ' :: '(' :: (k.spec ++ ')' :: trail)) = none := by
  rw [longestKey?_eq_none_iff]
  intro s hs
  have hbehind : Text.tick :: s <:+ k.spec ++ ')' :: trail := by
    rcases List.suffix_cons_iff.mp hs with he | hs
    · exact absurd (List.cons.inj he).1 (by decide)
    · rcases List.suffix_cons_iff.mp hs with he | hs
      · exact absurd (List.cons.inj he).1 (by decide)
      · exact hs
  -- such a tick is in the spec, and so are the blanks and the parenthesis that would follow it
  obtain ⟨x, hx⟩ := hbehind
  rcases Text.exists_of_append_cons_eq (by decide) hx with ⟨z, rfl⟩ | ⟨z, hz⟩
  · have htrail : z ++ Text.tick :: s = trail := by simpa using hx
    exact absurd (htrail ▸ List.mem_append_right z List.mem_cons_self) htick
  · have hs : s = z ++ ')' :: trail := by simpa [hz] using hx
    rw [Option.eq_none_iff_forall_ne_some]
    intro spec hspec
    obtain ⟨rest, ⟨blanks, ⟨hne, hblank⟩, hr⟩, -⟩ := keySpec?_eq_some_iff.mp hspec
    rcases Text.exists_of_append_cons_eq (by decide) (hs.symm.trans hr) with ⟨u, rfl⟩ | ⟨u, rfl⟩
    · exact hk blanks hne hblank ⟨x, u, by simp [hz]⟩
    · exact absurd (hblank ')' (by simp)) (by decide)

end Spec

section Definition

variable {r name definition trail : Text}

/-- A definition is read up to the comma that may end its line. -/
theorem columnDefinition?_append (hne : definition ≠ [])
    (hhead : ∀ d ∈ definition.head?, ¬ Text.isBlank d) (hlast : definition.getLast? ≠ some ',')
    (htrail : trail = [] ∨ trail = [',']) :
    columnDefinition? (' ' :: (definition ++ trail)) = some definition := by
  obtain ⟨d, r, rfl⟩ := List.exists_cons_of_ne_nil hne
  have htrim : Text.trimStart (d :: (r ++ trail)) = d :: (r ++ trail) := Text.trimStart_of_head hhead
  have hblank : Text.isBlank ' ' := by decide
  simp only [List.cons_append, columnDefinition?, if_pos hblank, htrim]
  rcases htrail with rfl | rfl
  · have hrest : r.getLast? ≠ some ',' := by
      intro hr
      exact hlast (by rw [List.getLast?_cons, hr, Option.getD_some])
    rw [List.append_nil, if_neg hrest]
  · rw [if_pos List.getLast?_concat, List.dropLast_concat]

/-- The name of a column goes on to the first tick. -/
theorem shortestColumn?_append (hname : Text.tick ∉ name)
    (hdefinition : columnDefinition? r = some definition) :
    shortestColumn? (name ++ Text.tick :: r) = some ⟨name, definition⟩ := by
  induction name with
  | nil => simp [shortestColumn?, hdefinition]
  | cons c name ih =>
    obtain ⟨hc, hname⟩ := List.ne_and_not_mem_of_not_mem_cons hname
    rw [List.cons_append, shortestColumn?, if_neg (Ne.symm hc), ih hname]
    rfl

end Definition

section Indented

variable {c : Char} {keyword line r : Text}

theorem trimStart_indent (hc : ¬ Text.isBlank c) :
    Text.trimStart (("  " : Text) ++ c :: r) = c :: r := by
  have hindent : ∀ d ∈ ("  " : Text), Text.isBlank d := by
    intro d hd
    rw [show d = ' ' by simpa using hd]
    decide
  rw [Text.trimStart_append hindent, Text.trimStart_of_head]
  rintro d ⟨⟩
  exact hc

theorem afterKeyword?_indent (hk : keyword.head? = some c) (hc : ¬ Text.isBlank c) (r : Text) :
    afterKeyword? keyword (("  " : Text) ++ (keyword ++ r)) = some r := by
  obtain ⟨k, rfl⟩ := List.head?_eq_some_iff.mp hk
  rw [afterKeyword?, List.cons_append, trimStart_indent hc]
  exact Text.dropStart?_append (c :: k) r

theorem read_of_isFrame (h : isFrame line) : Line.read line = .frame := by
  rw [Line.read, if_pos h]

end Indented

section Declarations

variable {trail : Text}

theorem indented_column (c : Column) (trail : Text) : (Declaration.column c).indented ++ trail =
    ("  " : Text) ++ Text.tick :: (c.name ++ Text.tick :: (' ' :: (c.definition ++ trail))) := by
  change ("  " : Text) ++ (quoteIdentifier c.name ++ " " ++ c.definition) ++ trail = _
  simp [quoteIdentifier]

theorem indented_primary (spec trail : Text) : (Declaration.primary spec).indented ++ trail =
    ("  " : Text) ++ (("PRIMARY KEY" : Text) ++ (' ' :: '(' :: (spec ++ ')' :: trail))) := by
  change ("  " : Text) ++ ("PRIMARY KEY (" ++ spec ++ ")") ++ trail = _
  simp

theorem indented_key (kind : KeyKind) (k : Key) (trail : Text) :
    (Declaration.key kind k).indented ++ trail =
      ("  " : Text) ++ (KeyKind.keyword kind ++ (' ' :: Text.tick ::
        (k.name ++ Text.tick :: (' ' :: '(' :: (k.spec ++ ')' :: trail))))) := by
  cases kind with
  | ordinary =>
    change ("  " : Text) ++ ("KEY " ++ quoteIdentifier k.name ++ " (" ++ k.spec ++ ")") ++ trail =
      ("  " : Text) ++ (("KEY" : Text) ++ _)
    simp [quoteIdentifier]
  | unique =>
    change ("  " : Text) ++ ("UNIQUE KEY " ++ quoteIdentifier k.name ++ " (" ++ k.spec ++ ")") ++
      trail = ("  " : Text) ++ (("UNIQUE KEY" : Text) ++ _)
    simp [quoteIdentifier]

theorem read_column {c : Column} (h : (Declaration.column c).Plain)
    (htrail : trail = [] ∨ trail = [',']) :
    Line.read ((Declaration.column c).indented ++ trail) = .column c := by
  obtain ⟨hname, hne, hhead, hcomma, -⟩ := h
  rw [read_eq_column_iff, indented_column, declaredColumn?, trimStart_indent (by decide)]
  exact shortestColumn?_append hname (columnDefinition?_append hne hhead hcomma htrail)

theorem read_primary (spec : Text) (htrail : trail = [] ∨ trail = [',']) :
    Line.read ((Declaration.primary spec).indented ++ trail) = .primary spec := by
  have hclose : ')' ∉ trail := by
    rcases htrail with rfl | rfl <;> decide
  rw [read_eq_primary_iff, indented_primary, primarySpec?, afterKeyword?_indent (c := 'P') rfl (by decide)]
  exact keySpec?_parenthesized hclose

theorem read_key {kind : KeyKind} {k : Key} (h : (Declaration.key kind k).Plain)
    (htrail : trail = [] ∨ trail = [',']) :
    Line.read ((Declaration.key kind k).indented ++ trail) = .key kind k := by
  have hclose : ')' ∉ trail := by
    rcases htrail with rfl | rfl <;> decide
  have htick : Text.tick ∉ trail := by
    rcases htrail with rfl | rfl <;> decide
  obtain ⟨c, hhead, hc, -⟩ := KeyKind.exists_head_keyword kind
  rw [read_eq_key_iff, indented_key, declaredKey?, afterKeyword?_indent hhead hc]
  exact longestKey?_append (longestKey?_parenthesized h htick) (keySpec?_parenthesized hclose) k.name

/-- A line gives its declaration back, with a comma or without one. -/
theorem read_indented {d : Declaration} (h : d.Plain) (htrail : trail = [] ∨ trail = [',']) :
    Line.read (d.indented ++ trail) = d.line := by
  cases d with
  | column c => exact read_column h htrail
  | primary spec => exact read_primary spec htrail
  | key kind k => exact read_key h htrail

end Declarations

end SchemaDrift.Dump
