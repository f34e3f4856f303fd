import Mathlib.Data.List.TakeWhile
import SchemaDrift.Proofs.Dump.Conservation
import SchemaDrift.Proofs.Dump.KeyLines

namespace SchemaDrift.Dump

/-- Whether a name can end in front of a text: a blank and at least one more character begin it. -/
def EndsName (behind : Text) : Prop := ∃ c d s, behind = c :: d :: s ∧ Text.isBlank c

/-- Whether the name of a column that begins a text can end in it, at a tick. -/
def NamesColumn (r : Text) : Prop := ∃ name behind, r = name ++ Text.tick :: behind ∧ EndsName behind

/-- Whether a text begins, and not with a blank. -/
def Begins (t : Text) : Prop := ∃ c s, t = c :: s ∧ ¬ Text.isBlank c

/-- The definition that stands in the text behind a name. -/
inductive Defines : Text → Text → Prop where
  /-- One comma at the end is none of it. -/
  | comma {blanks definition : Text} (hblanks : ∀ d ∈ blanks, Text.isBlank d) (h : Begins definition) :
    Defines (blanks ++ (definition ++ [','])) definition
  /-- A comma that stands alone is one. -/
  | whole {blanks definition : Text} (hblanks : ∀ d ∈ blanks, Text.isBlank d) (h : Begins definition)
    (hcomma : definition.getLast? = some ',' → definition = [',']) : Defines (blanks ++ definition) definition
  /-- Of blanks alone it is the last one. -/
  | blank {blanks : Text} {c : Char} (hblanks : ∀ d ∈ blanks ++ [c], Text.isBlank d) :
    Defines (blanks ++ [c]) [c]

/-- Whether a name ends at the first tick at which it can end. -/
structure EndsFirst (r name behind : Text) : Prop where
  pieces : r = name ++ Text.tick :: behind
  ends : EndsName behind
  first : ∀ name' behind', r = name' ++ Text.tick :: behind' → EndsName behind' → name.length ≤ name'.length

section Definitions

variable {behind definition : Text}

theorem columnDefinition?_eq_none (h : ¬ EndsName behind) : columnDefinition? behind = none := by
  rcases behind with _ | ⟨c, _ | ⟨d, s⟩⟩
  · rfl
  · rfl
  · exact if_neg fun hc => h ⟨c, d, s, rfl, hc⟩

/-- What the blanks behind a name are followed by decides the definition. -/
theorem columnDefinition?_of_trimStart {c : Char} {s : Text} (h : EndsName behind)
    (htrim : behind.trimStart = c :: s) :
    columnDefinition? behind = some (if s.getLast? = some ',' then c :: s.dropLast else c :: s) := by
  obtain ⟨b, d, r, rfl, hb⟩ := h
  rw [Text.trimStart, List.dropWhile_cons_of_pos hb] at htrim
  simp only [columnDefinition?, if_pos hb, Text.trimStart, htrim]

theorem columnDefinition?_of_blanks {blanks : Text} {c : Char} (h : EndsName (blanks ++ [c]))
    (hblanks : ∀ d ∈ blanks ++ [c], Text.isBlank d) : columnDefinition? (blanks ++ [c]) = some [c] := by
  obtain ⟨b, d, r, he, hb⟩ := h
  rw [he] at hblanks ⊢
  have htrim : Text.trimStart (d :: r) = [] :=
    List.dropWhile_eq_nil_iff.mpr fun e hmem => hblanks e (List.mem_cons_of_mem b hmem)
  have hlast : (d :: r).getLast? = some c := by
    rw [← List.getLast?_cons_cons (a := b), ← he, List.getLast?_concat]
  simp only [columnDefinition?, if_pos hb, htrim, hlast, Option.map_some]

theorem columnDefinition?_eq_some_of_defines (hends : EndsName behind) (h : Defines behind definition) :
    columnDefinition? behind = some definition := by
  have hstart {blanks t : Text} {c : Char} {s : Text} (hblanks : ∀ d ∈ blanks, Text.isBlank d)
      (ht : t = c :: s) (hc : ¬ Text.isBlank c) : Text.trimStart (blanks ++ t) = c :: s := by
    rw [Text.trimStart_append hblanks, ht, Text.trimStart_of_head]
    rintro d ⟨⟩
    exact hc
  cases h with
  | comma hblanks hbegins =>
    obtain ⟨c, s, rfl, hc⟩ := hbegins
    have htrim : Text.trimStart (_ ++ (c :: s ++ [','])) = c :: (s ++ [',']) := hstart hblanks rfl hc
    rw [columnDefinition?_of_trimStart hends htrim, if_pos List.getLast?_concat, List.dropLast_concat]
  | whole hblanks hbegins hcomma =>
    obtain ⟨c, s, rfl, hc⟩ := hbegins
    rw [columnDefinition?_of_trimStart hends (hstart hblanks rfl hc), if_neg]
    intro hs
    cases s with
    | nil => cases hs
    | cons d s =>
      have halone := hcomma (by rw [List.getLast?_cons_cons, hs])
      cases (List.cons.inj halone).2
  | blank hblanks => exact columnDefinition?_of_blanks hends hblanks

theorem exists_defines (h : EndsName behind) : ∃ definition, Defines behind definition := by
  obtain ⟨blanks, hbehind, hblanks, hstop⟩ := Text.exists_blanks_trimStart behind
  cases htrim : behind.trimStart with
  | nil =>
    rw [htrim, List.append_nil] at hbehind
    obtain ⟨c, d, s, rfl, -⟩ := h
    obtain ⟨front, last, hlast⟩ := (List.eq_nil_or_concat (c :: d :: s)).resolve_left (List.cons_ne_nil _ _)
    rw [List.concat_eq_append] at hlast
    rw [hlast] at hbehind ⊢
    exact ⟨[last], .blank (hbehind ▸ hblanks)⟩
  | cons c s =>
    rw [htrim] at hbehind hstop
    have hc : ¬ Text.isBlank c := hstop c rfl
    rw [hbehind]
    rcases List.eq_nil_or_concat s with rfl | ⟨front, last, rfl⟩
    · exact ⟨[c], .whole hblanks ⟨c, [], rfl, hc⟩ fun hlast => by cases hlast; rfl⟩
    · rw [List.concat_eq_append]
      by_cases hlast : last = ','
      · rw [hlast, ← List.cons_append]
        exact ⟨c :: front, .comma hblanks ⟨c, front, rfl, hc⟩⟩
      · refine ⟨c :: (front ++ [last]), .whole hblanks ⟨c, _, rfl, hc⟩ fun hcomma => ?_⟩
        rw [← List.cons_append, List.getLast?_concat] at hcomma
        exact absurd (Option.some.inj hcomma) hlast

end Definitions

section Names

variable {c : Char} {r name behind : Text} {column : Column}

theorem endsFirst_tick_cons_iff (h : EndsName r) :
    EndsFirst (Text.tick :: r) name behind ↔ name = [] ∧ behind = r := by
  constructor
  · rintro ⟨hpieces, -, hfirst⟩
    obtain rfl : name = [] := List.length_eq_zero_iff.mp (Nat.le_zero.mp (hfirst [] r rfl h))
    exact ⟨rfl, (List.cons.inj hpieces).2.symm⟩
  · rintro ⟨rfl, rfl⟩
    exact ⟨rfl, h, fun _ _ _ _ => Nat.zero_le _⟩

theorem endsFirst_cons_iff (h : c = Text.tick → ¬ EndsName r) :
    EndsFirst (c :: r) name behind ↔ ∃ name', name = c :: name' ∧ EndsFirst r name' behind := by
  constructor
  · rintro ⟨hpieces, hends, hfirst⟩
    rcases List.cons_eq_append_iff.mp hpieces with ⟨rfl, he⟩ | ⟨name', rfl, he⟩
    · obtain ⟨hc, rfl⟩ := List.cons.inj he
      exact absurd hends (h hc.symm)
    · refine ⟨name', rfl, he, hends, fun other behind' hother hends' => ?_⟩
      exact Nat.le_of_succ_le_succ (hfirst (c :: other) behind' (congrArg (c :: ·) hother) hends')
  · rintro ⟨name', rfl, hpieces, hends, hfirst⟩
    refine ⟨congrArg (c :: ·) hpieces, hends, fun other behind' hother hends' => ?_⟩
    rcases List.cons_eq_append_iff.mp hother with ⟨rfl, he⟩ | ⟨other', rfl, he⟩
    · obtain ⟨hc, rfl⟩ := List.cons.inj he
      exact absurd hends' (h hc.symm)
    · exact Nat.succ_le_succ (hfirst other' behind' he hends')

/-- A name goes on to the first tick at which it can end. -/
theorem shortestColumn?_eq_some_iff : shortestColumn? r = some column ↔
    ∃ behind, EndsFirst r column.name behind ∧ Defines behind column.definition := by
  induction r generalizing column with
  | nil =>
    refine iff_of_false (fun h => by cases h) ?_
    rintro ⟨behind, ⟨hpieces, -, -⟩, -⟩
    exact List.append_ne_nil_of_right_ne_nil _ (List.cons_ne_nil _ _) hpieces.symm
  | cons c r ih =>
    by_cases h : c = Text.tick ∧ EndsName r
    case pos =>
      obtain ⟨rfl, hends⟩ := h
      obtain ⟨definition, hdefinition⟩ := exists_defines hends
      have hread := columnDefinition?_eq_some_of_defines hends hdefinition
      simp only [shortestColumn?, if_true, hread, endsFirst_tick_cons_iff hends]
      obtain ⟨name, other⟩ := column
      constructor
      · rintro ⟨⟩
        exact ⟨r, ⟨rfl, rfl⟩, hdefinition⟩
      · rintro ⟨_, ⟨rfl, rfl⟩, hother⟩
        have he := columnDefinition?_eq_some_of_defines hends hother
        rw [hread, Option.some.injEq] at he
        exact congrArg (fun d => some (Column.mk [] d)) he
    case neg =>
      have hnone : (if c = Text.tick then columnDefinition? r else none) = none := by
        by_cases hc : c = Text.tick
        · rw [if_pos hc, columnDefinition?_eq_none fun hends => h ⟨hc, hends⟩]
        · rw [if_neg hc]
      have hcons (name behind : Text) :
          EndsFirst (c :: r) name behind ↔ ∃ name', name = c :: name' ∧ EndsFirst r name' behind :=
        endsFirst_cons_iff fun hc hends => h ⟨hc, hends⟩
      simp only [shortestColumn?, hnone, Option.map_eq_some_iff, ih, hcons]
      obtain ⟨name, definition⟩ := column
      constructor
      · rintro ⟨⟨name', _⟩, ⟨behind, hends, hdefines⟩, ⟨⟩⟩
        exact ⟨behind, ⟨name', rfl, hends⟩, hdefines⟩
      · rintro ⟨behind, ⟨name', rfl, hends⟩, hdefines⟩
        exact ⟨⟨name', definition⟩, ⟨behind, hends, hdefines⟩, rfl⟩

/-- Where a name can end at some tick, there is a first one. -/
theorem NamesColumn.exists_endsFirst (h : NamesColumn r) : ∃ name behind, EndsFirst r name behind := by
  obtain ⟨name, behind, hpieces, hends⟩ := h
  induction r generalizing name with
  | nil => exact absurd hpieces.symm (List.append_ne_nil_of_right_ne_nil _ (List.cons_ne_nil _ _))
  | cons c r ih =>
    by_cases h : c = Text.tick ∧ EndsName r
    case pos =>
      obtain ⟨rfl, hr⟩ := h
      exact ⟨[], r, (endsFirst_tick_cons_iff hr).mpr ⟨rfl, rfl⟩⟩
    case neg =>
      rcases List.cons_eq_append_iff.mp hpieces with ⟨rfl, he⟩ | ⟨name', rfl, he⟩
      · obtain ⟨hc, rfl⟩ := List.cons.inj he
        exact absurd ⟨hc.symm, hends⟩ h
      · obtain ⟨first, behind', hfirst⟩ := ih name' he
        exact ⟨c :: first, behind', (endsFirst_cons_iff fun hc hr => h ⟨hc, hr⟩).mpr ⟨first, rfl, hfirst⟩⟩

theorem namesColumn_iff : (∃ column, shortestColumn? r = some column) ↔ NamesColumn r := by
  constructor
  · rintro ⟨column, h⟩
    obtain ⟨behind, hfirst, -⟩ := shortestColumn?_eq_some_iff.mp h
    exact ⟨column.name, behind, hfirst.pieces, hfirst.ends⟩
  · intro h
    obtain ⟨name, behind, hfirst⟩ := h.exists_endsFirst
    obtain ⟨definition, hdefines⟩ := exists_defines hfirst.ends
    exact ⟨⟨name, definition⟩, shortestColumn?_eq_some_iff.mpr ⟨behind, hfirst, hdefines⟩⟩

end Names

section Lines

variable {lead r : Text} {column : Column}

theorem trimStart_tick (hlead : ∀ d ∈ lead, Text.isBlank d) :
    Text.trimStart (lead ++ Text.tick :: r) = Text.tick :: r := by
  rw [Text.trimStart_append hlead, Text.trimStart_of_head]
  rintro d ⟨⟩
  decide

theorem declaredColumn?_append (hlead : ∀ d ∈ lead, Text.isBlank d) :
    declaredColumn? (lead ++ Text.tick :: r) = shortestColumn? r := by
  rw [declaredColumn?, trimStart_tick hlead]
  rfl

theorem read_eq_unknown_iff (hlead : ∀ d ∈ lead, Text.isBlank d) :
    Line.read (lead ++ Text.tick :: r) = .unknown ↔ shortestColumn? r = none := by
  have hline : (Text.trimStart (lead ++ Text.tick :: r)).head? = some Text.tick := by
    rw [trimStart_tick hlead]
    rfl
  rw [read_of_tick hline, declaredColumn?_append hlead]
  cases shortestColumn? r <;> simp

/-- A line that begins with a tick is read as a column exactly if its name can end at a later tick. The name
then ends at the first such tick, and what follows it gives the definition. Any other such line is skipped. -/
theorem read_column_grammar (hlead : ∀ d ∈ lead, Text.isBlank d) (r : Text) :
    ((∃ column, Line.read (lead ++ Text.tick :: r) = .column column) ↔ NamesColumn r) ∧
    (∀ column, Line.read (lead ++ Text.tick :: r) = .column column ↔
      ∃ behind, EndsFirst r column.name behind ∧ Defines behind column.definition) ∧
    (Line.read (lead ++ Text.tick :: r) = .unknown ↔ ¬ NamesColumn r) ∧
    ∀ table block i, block.lines[i]? = some (lead ++ Text.tick :: r) →
      (Notice.skippedLine table (i + 1) (lead ++ Text.tick :: r) ∈ skippedLines table block ↔
        ¬ NamesColumn r) := by
  have hread (column : Column) : Line.read (lead ++ Text.tick :: r) = .column column ↔
      shortestColumn? r = some column := by
    rw [read_eq_column_iff, declaredColumn?_append hlead]
  have hunknown : Line.read (lead ++ Text.tick :: r) = .unknown ↔ ¬ NamesColumn r := by
    rw [read_eq_unknown_iff hlead, ← namesColumn_iff, not_exists, Option.eq_none_iff_forall_ne_some]
  refine ⟨?_, fun column => ?_, hunknown, fun table block i hline => ?_⟩
  · simp only [hread, namesColumn_iff]
  · rw [hread, shortestColumn?_eq_some_iff]
  · rw [← hunknown, mem_skippedLines]
    constructor
    · rintro ⟨j, line, -, hj, he⟩
      cases he
      exact hj
    · intro h
      exact ⟨i, _, hline, h, rfl⟩

/-- A doubled tick is part of the name, and of two commas one is part of the definition. -/
theorem read_column_grammar_doubled :
    (∀ d ∈ ("\t" : Text), Text.isBlank d) ∧
    ∃ behind, EndsFirst "a``b`  int,," "a``b" behind ∧ Defines behind "int," := by
  have hlead : ∀ d ∈ ("\t" : Text), Text.isBlank d := by
    intro d hd
    obtain rfl := List.mem_singleton.mp hd
    decide
  refine ⟨hlead, ((read_column_grammar hlead "a``b`  int,,").2.1 ⟨"a``b", "int,"⟩).mp ?_⟩
  decide +kernel

/-- Of blanks alone the last one is left for the definition. -/
example : Line.read "  `a`\t " = .column ⟨"a", " "⟩ := by decide +kernel

end Lines

end SchemaDrift.Dump
