import Mathlib.Data.List.Infix
import SchemaDrift.Text.Blank

namespace SchemaDrift.Text

variable {a b gap s t w : Text} {c : Char} {ws : List Text}

/-- Whether a text is a word: there is something of it, and no blank in it. -/
def IsWord (w : Text) : Prop := w ≠ [] ∧ ∀ d ∈ w, ¬ isBlank d

/-- Whether a text is these words, one behind the other, with blanks between them. -/
inductive Spaced : List Text → Text → Prop where
  | last {w : Text} (hw : IsWord w) : Spaced [w] w
  | cons {w gap t : Text} {ws : List Text} (hw : IsWord w) (hne : gap ≠ []) (hgap : ∀ d ∈ gap, isBlank d)
    (h : Spaced ws t) : Spaced (w :: ws) (w ++ (gap ++ t))

section Trim

variable {p : Char → Bool}

theorem dropWhile_append_of_head (ha : ∀ d ∈ a, p d) (hs : ∀ d ∈ s.head?, ¬ p d) : (a ++ s).dropWhile p = s := by
  rw [List.dropWhile_append_of_pos ha]
  cases s with
  | nil => rfl
  | cons d s => exact List.dropWhile_cons_of_neg (hs d rfl)

theorem takeWhile_append_of_head (ha : ∀ d ∈ a, p d) (hs : ∀ d ∈ s.head?, ¬ p d) : (a ++ s).takeWhile p = a := by
  have hsplit := List.takeWhile_append_dropWhile (p := p) (l := a ++ s)
  rw [dropWhile_append_of_head ha hs] at hsplit
  exact List.append_cancel_right hsplit

/-- What does not belong to the ends of a text is left of it. -/
theorem trimBoth_append (ha : ∀ d ∈ a, p d) (hb : ∀ d ∈ b, p d) (hs : ∀ d ∈ s.head?, ¬ p d)
    (hlast : ∀ d ∈ s.getLast?, ¬ p d) (hne : s ≠ []) : trimBoth p (a ++ (s ++ b)) = s := by
  have hstart : ∀ d ∈ (s ++ b).head?, ¬ p d := by
    rw [List.head?_append_of_ne_nil s hne]
    exact hs
  have hreverse : ∀ d ∈ b.reverse, p d := fun d hd => hb d (List.mem_reverse.mp hd)
  have hend : ∀ d ∈ s.reverse.head?, ¬ p d := by
    rw [List.head?_reverse]
    exact hlast
  rw [trimBoth, dropWhile_append_of_head ha hstart, List.reverse_append, dropWhile_append_of_head hreverse hend,
    List.reverse_reverse]

end Trim

section Words

theorem words_append_blank (hc : isBlank c) (s t : Text) : words (s ++ c :: t) = words s ++ words t := by
  rw [words, List.splitOnP_append_cons s t hc, List.filter_append]
  rfl

theorem words_of_isWord (hw : IsWord w) : words w = [w] := by
  have hsingle : w.splitOnP isBlank = [w] := List.splitOnP_eq_singleton fun d hd => by simpa using hw.2 d hd
  rw [words, hsingle]
  exact List.filter_cons_of_pos (decide_eq_true hw.1)

theorem words_blanks_append (ha : ∀ d ∈ a, isBlank d) : words (a ++ s) = words s := by
  induction a with
  | nil => rfl
  | cons c a ih =>
    obtain ⟨hc, ha⟩ := List.forall_mem_cons.mp ha
    rw [List.cons_append, ← List.nil_append (c :: _), words_append_blank hc, ih ha]
    rfl

theorem words_append_blanks (hb : ∀ d ∈ b, isBlank d) : words (s ++ b) = words s := by
  cases b with
  | nil => rw [List.append_nil]
  | cons c b =>
    obtain ⟨hc, hb⟩ := List.forall_mem_cons.mp hb
    have hnone : words b = [] := by
      rw [← List.append_nil b, words_blanks_append hb]
      rfl
    rw [words_append_blank hc, hnone, List.append_nil]

theorem Spaced.words_eq (h : Spaced ws t) : words t = ws := by
  induction h with
  | last hw => exact words_of_isWord hw
  | cons hw hne hgap _ ih =>
    obtain ⟨c, gap, rfl⟩ := List.exists_cons_of_ne_nil hne
    obtain ⟨hc, hgap⟩ := List.forall_mem_cons.mp hgap
    rw [List.cons_append, words_append_blank hc, words_of_isWord hw, words_blanks_append hgap, ih]
    rfl

theorem Spaced.isWord (h : Spaced ws t) (hw : w ∈ ws) : IsWord w := by
  induction h with
  | last hlast => rwa [List.mem_singleton.mp hw]
  | cons hfirst _ _ _ ih =>
    rcases List.mem_cons.mp hw with rfl | hw
    · exact hfirst
    · exact ih hw

theorem Spaced.ne_nil (h : Spaced ws t) : t ≠ [] := by
  cases h with
  | last hw => exact hw.1
  | cons hw => exact List.append_ne_nil_of_left_ne_nil hw.1 _

/-- Words begin and end with characters that are no blanks. -/
theorem Spaced.head?_not_blank (h : Spaced ws t) : ∀ d ∈ t.head?, ¬ isBlank d := by
  intro d hd
  cases h with
  | last hw => exact hw.2 d (List.mem_of_mem_head? hd)
  | cons hw =>
    rw [List.head?_append_of_ne_nil _ hw.1] at hd
    exact hw.2 d (List.mem_of_mem_head? hd)

theorem Spaced.getLast?_not_blank (h : Spaced ws t) : ∀ d ∈ t.getLast?, ¬ isBlank d := by
  induction h with
  | last hw => exact fun d hd => hw.2 d (List.mem_of_mem_getLast? hd)
  | cons _ _ _ h ih =>
    rw [← List.append_assoc, List.getLast?_append_of_ne_nil _ h.ne_nil]
    exact ih

end Words

end SchemaDrift.Text
