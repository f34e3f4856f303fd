namespace SchemaDrift

/-- A text is the list of its characters, so every law about texts is a law about lists. -/
abbrev Text := List Char

instance : Coe String Text := ⟨String.toList⟩

-- A power means the same here whatever other powers a module sees.
attribute [default_instance 20000, instance (2000)] instPowNat

namespace Text

/-- The quoting character of an identifier. -/
def tick : Char := '\x60'

/-- The text up to the first `c` and the text behind it. -/
def cutAt? (c : Char) (t : Text) : Option (Text × Text) :=
  match t.dropWhile (· ≠ c) with
  | [] => none
  | _ :: rest => some (t.takeWhile (· ≠ c), rest)

/-- A cut loses nothing but the character it is made at, and its first part is free of that character. -/
theorem cutAt?_eq_some {c : Char} {t a b : Text} (h : t.cutAt? c = some (a, b)) :
    t = a ++ c :: b ∧ c ∉ a := by
  unfold cutAt? at h
  split at h
  · simp at h
  next d rest hd =>
    have hc : d = c := by
      have := List.head?_dropWhile_not (fun x => decide (x ≠ c)) t
      rw [hd] at this
      simpa using this
    simp only [Option.some.injEq, Prod.mk.injEq] at h
    obtain ⟨rfl, rfl⟩ := h
    refine ⟨?_, fun hm => ?_⟩
    · rw [hc] at hd
      rw [← hd, List.takeWhile_append_dropWhile]
    · exact absurd (List.all_eq_true.mp List.all_takeWhile c hm) (by simp)

/-- The text in front of the last `c`. -/
def beforeLast? (c : Char) (t : Text) : Option Text :=
  (cutAt? c t.reverse).map fun (_, before) => before.reverse

/-- The rest of a text from the first place where `needle` stands. -/
def fromFirst? (needle : Text) : Text → Option Text
  | [] => if needle = [] then some [] else none
  | c :: r => if needle.isPrefixOf (c :: r) then some (c :: r) else fromFirst? needle r

/-- Whether `needle` stands somewhere in a text. -/
def hasText (needle t : Text) : Bool := (fromFirst? needle t).isSome

/-- What is found is the end of the text, and `needle` stands in front of it. -/
theorem fromFirst?_eq_some {needle t s : Text} (h : fromFirst? needle t = some s) :
    (∃ a, t = a ++ s) ∧ needle <+: s := by
  fun_induction fromFirst? needle t with
  | case1 hn => simp_all
  | case2 => simp at h
  | case3 c r hp =>
    simp only [Option.some.injEq] at h
    subst h
    exact ⟨⟨[], rfl⟩, List.isPrefixOf_iff_prefix.mp hp⟩
  | case4 c r _ ih =>
    obtain ⟨⟨a, ha⟩, hp⟩ := ih h
    exact ⟨⟨c :: a, by simp [ha]⟩, hp⟩

/-- A text without its first characters when these are `start`. -/
def dropStart? (start t : Text) : Option Text :=
  if start.isPrefixOf t then some (t.drop start.length) else none

/-- Whether a text is not behind another one in the order of the code points. -/
def inOrder (a b : Text) : Bool := !decide (b < a)

/-- The decimal writing of a number. -/
def ofNat (n : Nat) : Text := Nat.toDigits 10 n

end Text
end SchemaDrift
