import Mathlib.Data.List.Forall2
import SchemaDrift.Proofs.Text.Pieces
import SchemaDrift.Table.IndexName

namespace SchemaDrift

/-- Whether a character separates the columns of a spec or wraps them. -/
def isSpecMark (c : Char) : Bool := c = ',' || isWrapping c

/-- A spec without its wrapping. -/
def bareSpec (spec : Text) : Text := spec.filter (!isWrapping ·)

/-- The character that stands in a name for one of a bare spec. -/
def nameChar (c : Char) : Char := if c = ',' then '_' else c

/-- Whether the second text is the first one with wrapping put in or left out, wherever it be. -/
inductive Rewrapped : Text → Text → Prop where
  | nil : Rewrapped [] []
  | keep {s t : Text} (c : Char) (h : Rewrapped s t) : Rewrapped (c :: s) (c :: t)
  | insert {s t : Text} {c : Char} (hc : isWrapping c) (h : Rewrapped s t) : Rewrapped s (c :: t)
  | delete {s t : Text} {c : Char} (hc : isWrapping c) (h : Rewrapped s t) : Rewrapped (c :: s) t

section Wrapping

variable {c : Char} {s t run : Text}

theorem isSpecMark_iff : isSpecMark c ↔ c = ',' ∨ isWrapping c := by
  rw [isSpecMark, Bool.or_eq_true, decide_eq_true_iff]

theorem mem_bareSpec_iff : c ∈ bareSpec s ↔ c ∈ s ∧ ¬ isWrapping c := by
  rw [bareSpec, List.mem_filter, Bool.not_eq_true', Bool.not_eq_true]

theorem bareSpec_cons_of_wrapping (hc : isWrapping c) : bareSpec (c :: s) = bareSpec s :=
  List.filter_cons_of_neg (by simp [hc])

theorem bareSpec_cons_of_not_wrapping (hc : ¬ isWrapping c) : bareSpec (c :: s) = c :: bareSpec s :=
  List.filter_cons_of_pos (by simp [hc])

theorem bareSpec_append (s t : Text) : bareSpec (s ++ t) = bareSpec s ++ bareSpec t := List.filter_append s t

theorem bareSpec_eq_self (h : ∀ c ∈ s, ¬ isSpecMark c) : bareSpec s = s := by
  rw [bareSpec, List.filter_eq_self]
  intro c hc
  obtain ⟨-, hwrapping⟩ := not_or.mp (isSpecMark_iff.not.mp (h c hc))
  simp [hwrapping]

theorem forall_bareSpec_eq_comma_iff : (∀ c ∈ bareSpec s, c = ',') ↔ ∀ c ∈ s, isSpecMark c := by
  constructor
  · intro h c hc
    by_cases hwrapping : isWrapping c
    · exact isSpecMark_iff.mpr (.inr hwrapping)
    · exact isSpecMark_iff.mpr (.inl (h c (mem_bareSpec_iff.mpr ⟨hc, hwrapping⟩)))
  · intro h c hc
    obtain ⟨hmem, hwrapping⟩ := mem_bareSpec_iff.mp hc
    exact (isSpecMark_iff.mp (h c hmem)).resolve_right hwrapping

theorem bareSpec_intercalate (ts : List Text) :
    bareSpec (List.intercalate "," ts) = List.intercalate "," (ts.map bareSpec) :=
  Text.map_intercalate rfl bareSpec_append "," ts

theorem Rewrapped.bareSpec_eq (h : Rewrapped s t) : bareSpec s = bareSpec t := by
  induction h with
  | nil => rfl
  | keep c _ ih =>
    by_cases hc : isWrapping c
    · rw [bareSpec_cons_of_wrapping hc, bareSpec_cons_of_wrapping hc, ih]
    · rw [bareSpec_cons_of_not_wrapping hc, bareSpec_cons_of_not_wrapping hc, ih]
  | insert hc _ ih => rw [bareSpec_cons_of_wrapping hc, ih]
  | delete hc _ ih => rw [bareSpec_cons_of_wrapping hc, ih]

theorem Rewrapped.insert_run (hrun : ∀ c ∈ run, isWrapping c) (h : Rewrapped s t) : Rewrapped s (run ++ t) := by
  induction run with
  | nil => exact h
  | cons c run ih =>
    obtain ⟨hc, hrun⟩ := List.forall_mem_cons.mp hrun
    exact .insert hc (ih hrun)

/-- Wrapping is all that two such texts differ in. -/
theorem rewrapped_iff : Rewrapped s t ↔ bareSpec s = bareSpec t := by
  refine ⟨Rewrapped.bareSpec_eq, fun h => ?_⟩
  induction s generalizing t with
  | nil =>
    have hall : ∀ c ∈ t, isWrapping c := by simpa [bareSpec] using h.symm
    rw [← List.append_nil t]
    exact Rewrapped.nil.insert_run hall
  | cons c s ih =>
    by_cases hc : isWrapping c
    · rw [bareSpec_cons_of_wrapping hc] at h
      exact .delete hc (ih h)
    · rw [bareSpec_cons_of_not_wrapping hc] at h
      -- what the other text has in front of this character was put in
      obtain ⟨run, rest, rfl, hrun, -, hrest⟩ := List.filter_eq_cons_iff.mp h.symm
      exact (Rewrapped.keep c (ih hrest.symm)).insert_run (by simpa using hrun)

instance : Decidable (Rewrapped s t) := decidable_of_iff _ rewrapped_iff.symm

end Wrapping

section Naming

variable {c : Char} {spec name run : Text} {ts tokens wrapped : List Text}

theorem map_nameChar_of_notMem (h : ',' ∉ name) : name.map nameChar = name := by
  have hkept : ∀ c ∈ name, nameChar c = id c := by
    intro c hc
    refine if_neg ?_
    rintro rfl
    exact h hc
  rw [List.map_congr_left hkept, List.map_id]

theorem map_nameChar_intercalate (h : ∀ t ∈ ts, ',' ∉ t) :
    (List.intercalate "," ts).map nameChar = List.intercalate "_" ts := by
  have hkept : ∀ t ∈ ts, t.map nameChar = id t := fun t ht => map_nameChar_of_notMem (h t ht)
  rw [Text.map_intercalate rfl (fun _ _ => List.map_append) "," ts, List.map_congr_left hkept, List.map_id]
  rfl

/-- The name is the bare spec up to its last character that is no comma, with underscores for commas. -/
theorem indexName_eq (spec : Text) : indexName spec = ((bareSpec spec).rdropWhile (· = ',')).map nameChar := by
  -- the tokens have no commas, so the commas of the bare spec are the joints between them
  let tokens := (spec.splitOn ',').map bareSpec
  have htokens : ∀ t ∈ tokens, ',' ∉ t := by
    intro t ht hcomma
    obtain ⟨piece, hpiece, rfl⟩ := List.mem_map.mp ht
    exact Text.notMem_of_mem_splitOn hpiece (mem_bareSpec_iff.mp hcomma).1
  have hbare : List.intercalate "," tokens = bareSpec spec := by
    rw [← bareSpec_intercalate]
    exact congrArg bareSpec (List.intercalate_splitOn ',')
  calc indexName spec
    _ = List.intercalate "_" (tokens.rdropWhile (· = [])) := rfl
    _ = (List.intercalate "," (tokens.rdropWhile (· = []))).map nameChar :=
      (map_nameChar_intercalate fun t ht => htokens t ((List.rdropWhile_prefix _ tokens).mem ht)).symm
    _ = ((List.intercalate "," tokens).rdropWhile (· = ',')).map nameChar :=
      congrArg (List.map nameChar) (Text.rdropWhile_intercalate htokens).symm
    _ = ((bareSpec spec).rdropWhile (· = ',')).map nameChar := by rw [hbare]

/-- A name has nothing in it but underscores and what the spec has besides its marks. -/
theorem mem_of_mem_indexName (h : c ∈ indexName spec) : c = '_' ∨ c ∈ spec ∧ ¬ isSpecMark c := by
  rw [indexName_eq] at h
  obtain ⟨d, hd, rfl⟩ := List.mem_map.mp h
  obtain ⟨hmem, hwrapping⟩ := mem_bareSpec_iff.mp ((List.rdropWhile_prefix _ _).mem hd)
  by_cases hcomma : d = ','
  · exact .inl (if_pos hcomma)
  · rw [nameChar, if_neg hcomma, isSpecMark_iff, not_or]
    exact .inr ⟨hmem, hcomma, hwrapping⟩

theorem not_isSpecMark_of_mem_indexName (h : c ∈ indexName spec) : ¬ isSpecMark c := by
  rcases mem_of_mem_indexName h with rfl | ⟨-, hc⟩
  · decide
  · exact hc

/-- A text without marks is a name already. -/
theorem indexName_eq_self (h : ∀ c ∈ name, ¬ isSpecMark c) : indexName name = name := by
  have hcomma : ',' ∉ name := fun hc => h ',' hc (by decide)
  have hkept : name.rdropWhile (· = ',') = name := by
    refine List.rdropWhile_eq_self_iff.mpr fun hne hlast => hcomma ?_
    rw [← of_decide_eq_true hlast]
    exact List.getLast_mem hne
  rw [indexName_eq, bareSpec_eq_self h, hkept, map_nameChar_of_notMem hcomma]

theorem indexName_congr {spec' : Text} (h : Rewrapped spec spec') : indexName spec' = indexName spec := by
  rw [indexName_eq, indexName_eq, h.bareSpec_eq]

theorem indexName_append_marks (h : ∀ c ∈ run, isSpecMark c) : indexName (spec ++ run) = indexName spec := by
  have hcommas : ∀ c ∈ (bareSpec run).reverse, decide (c = ',') := by
    intro c hc
    exact decide_eq_true (forall_bareSpec_eq_comma_iff.mpr h c (List.mem_reverse.mp hc))
  rw [indexName_eq, indexName_eq, bareSpec_append, List.rdropWhile, List.reverse_append,
    List.dropWhile_append_of_pos hcommas, List.rdropWhile]

theorem indexName_eq_nil_iff : indexName spec = [] ↔ ∀ c ∈ spec, isSpecMark c := by
  rw [indexName_eq, List.map_eq_nil_iff, List.rdropWhile_eq_nil_iff, ← forall_bareSpec_eq_comma_iff]
  simp only [decide_eq_true_iff]

theorem map_bareSpec_of_rewrapped (hfree : ∀ token ∈ tokens, ∀ c ∈ token, ¬ isSpecMark c)
    (h : List.Forall₂ Rewrapped tokens wrapped) : wrapped.map bareSpec = tokens := by
  induction h with
  | nil => rfl
  | cons hfirst _ ih =>
    obtain ⟨htoken, hfree⟩ := List.forall_mem_cons.mp hfree
    rw [List.map_cons, ih hfree, ← hfirst.bareSpec_eq, bareSpec_eq_self htoken]

/-- Columns that are joined by commas give their names, the empty ones among them too. -/
theorem indexName_joined (hfree : ∀ token ∈ tokens, ∀ c ∈ token, ¬ isSpecMark c)
    (hlast : tokens.getLast? ≠ some []) (h : List.Forall₂ Rewrapped tokens wrapped) :
    indexName (List.intercalate "," wrapped) = List.intercalate "_" tokens := by
  have hcomma : ∀ token ∈ tokens, ',' ∉ token := fun token ht hc => hfree token ht ',' hc (by decide)
  have hkept : tokens.rdropWhile (· = []) = tokens := by
    refine List.rdropWhile_eq_self_iff.mpr fun hne hempty => hlast ?_
    rw [List.getLast?_eq_some_getLast hne, of_decide_eq_true hempty]
  calc indexName (List.intercalate "," wrapped)
    _ = ((List.intercalate "," tokens).rdropWhile (· = ',')).map nameChar := by
      rw [indexName_eq, bareSpec_intercalate, map_bareSpec_of_rewrapped hfree h]
    _ = (List.intercalate "," (tokens.rdropWhile (· = []))).map nameChar :=
      congrArg (List.map nameChar) (Text.rdropWhile_intercalate hcomma)
    _ = List.intercalate "_" tokens := by rw [hkept, map_nameChar_intercalate hcomma]

end Naming

/-- Index names are a normal form of column specs. No mark of a spec is left in a name, and the name of a
name is itself. Wrapping makes no difference anywhere, nor do marks at the end, and the name is empty
exactly if the spec is all marks. Columns joined by commas give their names joined by underscores. -/
theorem indexName_normal_form (spec : Text) :
    (∀ c ∈ indexName spec, ¬ isSpecMark c) ∧ indexName (indexName spec) = indexName spec ∧
    (∀ spec', Rewrapped spec spec' → indexName spec' = indexName spec) ∧
    (∀ run : Text, (∀ c ∈ run, isSpecMark c) → indexName (spec ++ run) = indexName spec) ∧
    (indexName spec = [] ↔ ∀ c ∈ spec, isSpecMark c) ∧
    ∀ tokens wrapped : List Text, (∀ token ∈ tokens, ∀ c ∈ token, ¬ isSpecMark c) →
      tokens.getLast? ≠ some [] → List.Forall₂ Rewrapped tokens wrapped →
      indexName (List.intercalate "," wrapped) = List.intercalate "_" tokens := by
  have hfree : ∀ c ∈ indexName spec, ¬ isSpecMark c := fun c hc => not_isSpecMark_of_mem_indexName hc
  refine ⟨hfree, indexName_eq_self hfree, fun spec' h => indexName_congr h, fun run h => indexName_append_marks h,
    indexName_eq_nil_iff, fun tokens wrapped hfree hlast h => indexName_joined hfree hlast h⟩

/-- A spec with a prefix length, nested parentheses and columns of no name at all its places. -/
theorem indexName_normal_form_nested :
    let spec : Text := "(),`title`(10),,((`b`)),`,"
    let bare : Text := ",title10,,b,,"
    let run : Text := "),``(,"
    let tokens : List Text := ["", "title10", "", "b"]
    let wrapped : List Text := ["()", "`title`(10)", "", "((`b`))"]
    Rewrapped spec bare ∧ indexName bare = indexName spec ∧
    (∀ c ∈ run, isSpecMark c) ∧ indexName (spec ++ run) = indexName spec ∧
    (∀ token ∈ tokens, ∀ c ∈ token, ¬ isSpecMark c) ∧ tokens.getLast? ≠ some [] ∧
    List.Forall₂ Rewrapped tokens wrapped ∧ indexName (List.intercalate "," wrapped) = "_title10__b" := by
  intro spec bare run tokens wrapped
  have hbare : Rewrapped spec bare := by decide
  have hrun : ∀ c ∈ run, isSpecMark c := List.all_eq_true.mp (by decide)
  have hall : ∀ token ∈ tokens, token.all (!isSpecMark ·) := by decide
  have hfree : ∀ token ∈ tokens, ∀ c ∈ token, ¬ isSpecMark c := by
    intro token ht c hc
    simpa using List.all_eq_true.mp (hall token ht) c hc
  have hlast : tokens.getLast? ≠ some [] := by decide
  have hwrapped : List.Forall₂ Rewrapped tokens wrapped :=
    .cons (by decide) (.cons (by decide) (.cons (by decide) (.cons (by decide) .nil)))
  obtain ⟨-, -, hrewrapped, happended, -, hjoined⟩ := indexName_normal_form spec
  exact ⟨hbare, hrewrapped bare hbare, hrun, happended run hrun, hfree, hlast, hwrapped,
    hjoined tokens wrapped hfree hlast hwrapped⟩

end SchemaDrift
