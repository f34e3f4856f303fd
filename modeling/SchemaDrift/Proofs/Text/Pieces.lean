import Mathlib.Data.List.DropRight
import SchemaDrift.Text.Blank

namespace SchemaDrift.Text

variable {c : Char} {a b start s t : Text}

/-- Of two different characters at which one text is taken apart, one stands in front of the other. -/
theorem exists_of_append_cons_eq {d : Char} (hcd : c ≠ d) (h : a ++ c :: s = b ++ d :: t) :
    (∃ u, a = b ++ d :: u) ∨ ∃ u, b = a ++ c :: u := by
  rcases List.append_eq_append_iff.mp h with ⟨u, rfl, hu⟩ | ⟨u, rfl, hu⟩
  · rcases List.cons_eq_append_iff.mp hu with ⟨rfl, he⟩ | ⟨u', rfl, -⟩
    · exact absurd (List.cons.inj he).1.symm hcd
    · exact .inr ⟨u', rfl⟩
  · rcases List.cons_eq_append_iff.mp hu with ⟨rfl, he⟩ | ⟨u', rfl, -⟩
    · exact absurd (List.cons.inj he).1 hcd
    · exact .inl ⟨u', rfl⟩

section Cutting

/-- Whether a text ends or goes on with a `c`. -/
def StopsAt (c : Char) (s : Text) : Prop := ∀ d ∈ s.head?, d = c

theorem takeWhile_ne_append (ha : c ∉ a) (hs : StopsAt c s) : (a ++ s).takeWhile (· ≠ c) = a := by
  have hkeep : ∀ d ∈ a, decide (d ≠ c) = true := by
    intro d hd
    rw [decide_eq_true_iff]
    rintro rfl
    exact ha hd
  rw [List.takeWhile_append_of_pos hkeep]
  cases s with
  | nil => rw [List.takeWhile_nil, List.append_nil]
  | cons d s => rw [List.takeWhile_cons_of_neg (by simp [hs d rfl]), List.append_nil]

theorem dropWhile_ne_append (ha : c ∉ a) (hs : StopsAt c s) : (a ++ s).dropWhile (· ≠ c) = s := by
  have hsplit := List.takeWhile_append_dropWhile (p := (· ≠ c)) (l := a ++ s)
  rw [takeWhile_ne_append ha hs] at hsplit
  exact List.append_cancel_left hsplit

theorem stopsAt_cons (c : Char) (s : Text) : StopsAt c (c :: s) := by
  rintro d ⟨⟩
  rfl

theorem cutAt?_append (h : c ∉ a) : cutAt? c (a ++ c :: b) = some (a, b) := by
  rw [cutAt?, dropWhile_ne_append h (stopsAt_cons c b), takeWhile_ne_append h (stopsAt_cons c b)]

theorem beforeLast?_append (h : c ∉ b) : beforeLast? c (a ++ c :: b) = some a := by
  have hsplit : (a ++ c :: b).reverse = b.reverse ++ c :: a.reverse := by simp
  rw [beforeLast?, hsplit, cutAt?_append fun hc => h (List.mem_reverse.mp hc)]
  exact congrArg some (List.reverse_reverse a)

/-- What stands in front of the last `c` is found with all that follows it. -/
theorem beforeLast?_eq_some_iff : beforeLast? c t = some a ↔ ∃ b, t = a ++ c :: b ∧ c ∉ b := by
  constructor
  · intro h
    obtain ⟨⟨b, before⟩, hcut, rfl⟩ := Option.map_eq_some_iff.mp h
    obtain ⟨hreverse, hb⟩ := cutAt?_eq_some hcut
    refine ⟨b.reverse, ?_, fun hc => hb (List.mem_reverse.mp hc)⟩
    rw [← List.reverse_reverse t, hreverse]
    simp
  · rintro ⟨b, rfl, hb⟩
    exact beforeLast?_append hb

theorem exists_last_of_mem (h : c ∈ t) : ∃ a b, t = a ++ c :: b ∧ c ∉ b := by
  obtain ⟨b, a, hreverse, hb⟩ := List.eq_append_cons_of_mem (List.mem_reverse.mpr h)
  refine ⟨a.reverse, b.reverse, ?_, fun hc => hb (List.mem_reverse.mp hc)⟩
  rw [← List.reverse_reverse t, hreverse]
  simp

theorem dropStart?_append (start s : Text) : dropStart? start (start ++ s) = some s := by
  rw [dropStart?, if_pos (List.isPrefixOf_iff_prefix.mpr (List.prefix_append start s)), List.drop_left]

theorem dropStart?_eq_none (h : ¬ start <+: s) : dropStart? start s = none := by
  rw [dropStart?, if_neg fun hp => h (List.isPrefixOf_iff_prefix.mp hp)]

theorem dropStart?_eq_some_iff : dropStart? start t = some s ↔ t = start ++ s := by
  constructor
  · intro h
    by_cases hp : start <+: t
    · obtain ⟨r, rfl⟩ := hp
      rw [dropStart?_append] at h
      cases h
      rfl
    · rw [dropStart?_eq_none hp] at h
      cases h
  · rintro rfl
    exact dropStart?_append start s

end Cutting

section Blanks

theorem trimStart_of_head (h : ∀ d ∈ s.head?, ¬ isBlank d) : trimStart s = s := by
  cases s with
  | nil => rfl
  | cons d r => exact List.dropWhile_cons_of_neg (h d rfl)

theorem trimStart_append (ha : ∀ d ∈ a, isBlank d) : trimStart (a ++ s) = trimStart s :=
  List.dropWhile_append_of_pos ha

theorem exists_blanks_trimStart (t : Text) :
    ∃ blanks, t = blanks ++ t.trimStart ∧ (∀ d ∈ blanks, isBlank d) ∧ ∀ d ∈ t.trimStart.head?, ¬ isBlank d := by
  refine ⟨t.takeWhile isBlank, List.takeWhile_append_dropWhile.symm,
    fun d hd => List.all_eq_true.mp List.all_takeWhile d hd, fun d hd => ?_⟩
  have hstop := List.head?_dropWhile_not isBlank t
  rw [show (t.dropWhile isBlank).head? = some d from hd] at hstop
  simpa using hstop

/-- Blanks end at the first character that is none, so they can be taken off in one way only. -/
theorem blanks_inj (ha : ∀ d ∈ a, isBlank d) (hb : ∀ d ∈ b, isBlank d) (hs : ∀ d ∈ s.head?, ¬ isBlank d)
    (ht : ∀ d ∈ t.head?, ¬ isBlank d) (h : a ++ s = b ++ t) : a = b ∧ s = t := by
  have hst : s = t := by
    rw [← trimStart_of_head hs, ← trimStart_append ha, h, trimStart_append hb, trimStart_of_head ht]
  subst hst
  exact ⟨List.append_cancel_right h, rfl⟩

end Blanks

section Joined

/-- What joins texts stands in one of them or between them. -/
theorem mem_of_mem_intercalate {sep : Text} {ts : List Text} (h : c ∈ List.intercalate sep ts) :
    c ∈ sep ∨ ∃ t ∈ ts, c ∈ t := by
  induction ts with
  | nil => cases h
  | cons t ts ih =>
    cases ts with
    | nil =>
      rw [List.intercalate_singleton] at h
      exact .inr ⟨t, List.mem_singleton_self t, h⟩
    | cons u us =>
      rw [List.intercalate_cons_cons, List.mem_append, List.mem_append] at h
      rcases h with (h | h) | h
      · exact .inr ⟨t, List.mem_cons_self, h⟩
      · exact .inl h
      · refine (ih h).imp_right ?_
        rintro ⟨v, hv, hc⟩
        exact ⟨v, List.mem_cons_of_mem t hv, hc⟩

/-- What works on each character by itself works on joined texts one by one. -/
theorem map_intercalate {f : Text → Text} (hnil : f [] = []) (happend : ∀ a b, f (a ++ b) = f a ++ f b)
    (sep : Text) (ts : List Text) : f (List.intercalate sep ts) = List.intercalate (f sep) (ts.map f) := by
  induction ts with
  | nil => exact hnil
  | cons t ts ih =>
    cases ts with
    | nil => simp
    | cons u us =>
      rw [List.intercalate_cons_cons, happend, happend, ih]
      simp [List.intercalate_cons_cons]

theorem intercalate_concat {sep last : Text} {ts : List Text} (h : ts ≠ []) :
    List.intercalate sep (ts ++ [last]) = List.intercalate sep ts ++ (sep ++ last) := by
  induction ts with
  | nil => exact absurd rfl h
  | cons t ts ih =>
    cases ts with
    | nil => simp
    | cons u us =>
      have hrest := ih (List.cons_ne_nil u us)
      simp only [List.cons_append, List.intercalate_cons_cons, List.append_assoc] at hrest ⊢
      rw [hrest]

theorem suffix_intercalate_concat (sep : Text) (ts : List Text) (last : Text) :
    last <:+ List.intercalate sep (ts ++ [last]) := by
  rcases eq_or_ne ts [] with rfl | hts
  · refine ⟨[], ?_⟩
    rw [List.nil_append, List.nil_append, List.intercalate_singleton]
  · rw [intercalate_concat hts, ← List.append_assoc]
    exact List.suffix_append _ last

/-- Only joints stand behind the last text that is not empty. -/
theorem rdropWhile_intercalate {ts : List Text} (h : ∀ t ∈ ts, c ∉ t) :
    (List.intercalate [c] ts).rdropWhile (· = c) = List.intercalate [c] (ts.rdropWhile (· = [])) := by
  induction ts using List.reverseRecOn with
  | nil => rfl
  | append_singleton ts last ih =>
    obtain ⟨hts, hlast⟩ := List.forall_mem_append.mp h
    rcases List.eq_nil_or_concat' last with rfl | ⟨front, d, rfl⟩
    · -- an empty last text leaves a joint at the end, or nothing at all
      rw [List.rdropWhile_concat_pos _ ts _ (by decide), ← ih hts]
      rcases eq_or_ne ts [] with rfl | hne
      · rfl
      · rw [intercalate_concat hne, List.append_nil, List.rdropWhile_concat_pos _ _ _ (by simp)]
    · have hd : d ≠ c := by
        rintro rfl
        exact hlast _ (List.mem_singleton_self _) (List.mem_append_right front (List.mem_singleton_self d))
      obtain ⟨before, hbefore⟩ := suffix_intercalate_concat [c] ts (front ++ [d])
      rw [List.rdropWhile_concat_neg _ ts _ (by simp), ← hbefore, ← List.append_assoc,
        List.rdropWhile_concat_neg _ _ d (by simpa using hd)]

theorem mem_of_mem_splitOn {c d : Char} {t p : Text} (hp : p ∈ t.splitOn d) (hc : c ∈ p) : c ∈ t := by
  induction t generalizing p with
  | nil =>
    rw [List.splitOn_nil, List.mem_singleton] at hp
    subst hp
    cases hc
  | cons a t ih =>
    rw [List.splitOn_cons_eq_if_modifyHead] at hp
    split at hp
    · rcases List.mem_cons.mp hp with rfl | hp
      · cases hc
      · exact List.mem_cons_of_mem a (ih hp hc)
    · obtain ⟨q, pieces, hpieces⟩ := List.exists_cons_of_ne_nil (List.splitOn_ne_nil d t)
      rw [hpieces] at hp ih
      rcases List.mem_cons.mp hp with rfl | hp
      · rcases List.mem_cons.mp hc with rfl | hc
        · exact List.mem_cons_self
        · exact List.mem_cons_of_mem a (ih List.mem_cons_self hc)
      · exact List.mem_cons_of_mem a (ih (List.mem_cons_of_mem q hp) hc)

theorem notMem_of_mem_splitOn {d : Char} {t p : Text} (hp : p ∈ t.splitOn d) : d ∉ p := by
  induction t generalizing p with
  | nil =>
    rw [List.splitOn_nil, List.mem_singleton] at hp
    subst hp
    exact List.not_mem_nil
  | cons a t ih =>
    rw [List.splitOn_cons_eq_if_modifyHead] at hp
    split at hp
    · rcases List.mem_cons.mp hp with rfl | hp
      · exact List.not_mem_nil
      · exact ih hp
    next had =>
      obtain ⟨q, pieces, hpieces⟩ := List.exists_cons_of_ne_nil (List.splitOn_ne_nil d t)
      rw [hpieces] at hp ih
      rcases List.mem_cons.mp hp with rfl | hp
      · have hda : d ≠ a := fun h => had (by simp [h])
        exact List.not_mem_cons_of_ne_of_not_mem hda (ih List.mem_cons_self)
      · exact ih (List.mem_cons_of_mem q hp)

end Joined

section Lines

theorem break_notMem_of_mem_lines {line : Text} (h : line ∈ lines t) : '\n' ∉ line := by
  rw [lines, List.mem_append, List.mem_map, List.mem_filter] at h
  rcases h with ⟨p, hp, rfl⟩ | ⟨hp, -⟩
  · have hbreak := notMem_of_mem_splitOn (List.dropLast_subset _ hp)
    rw [lines.endingReturnDropped]
    split
    · exact fun hmem => hbreak (List.dropLast_subset _ hmem)
    · exact hbreak
  · rw [Option.mem_toList] at hp
    exact notMem_of_mem_splitOn (List.mem_of_getLast? hp)

theorem endingReturnDropped_of_getLast? (h : t.getLast? ≠ some '\r') :
    lines.endingReturnDropped t = t := by
  rw [lines.endingReturnDropped, if_neg h]

/-- Lines that end in no carriage return come back from the text they are joined to. -/
theorem lines_intercalate {ls : List Text} {last : Text} (hbreak : ∀ l ∈ ls ++ [last], '\n' ∉ l)
    (hreturn : ∀ l ∈ ls, l.getLast? ≠ some '\r') (hlast : last ≠ []) :
    lines (List.intercalate ['\n'] (ls ++ [last])) = ls ++ [last] := by
  have hpieces : (List.intercalate ['\n'] (ls ++ [last])).splitOn '\n' = ls ++ [last] :=
    List.splitOn_intercalate '\n' hbreak (List.append_ne_nil_of_right_ne_nil ls (List.cons_ne_nil _ _))
  have hkept : ls.map lines.endingReturnDropped = ls := by
    rw [List.map_congr_left fun l hl => endingReturnDropped_of_getLast? (hreturn l hl), List.map_id']
  rw [lines, hpieces, List.dropLast_concat, hkept, List.getLast?_concat]
  simp [hlast]

end Lines

end SchemaDrift.Text
