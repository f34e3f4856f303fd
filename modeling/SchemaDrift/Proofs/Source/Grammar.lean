import Mathlib.Data.List.TakeWhile
import SchemaDrift.Proofs.Text.Pieces
import SchemaDrift.Source.Grammar

namespace SchemaDrift.OptionItem

variable {α : Type} {rules : List (OptionRule α)} {rule : OptionRule α} {c : Char} {value : Text}

/-- What comes of an option whose value stands in the next word. -/
def itemsApart (rules : List (OptionRule α)) (key : α) : List Text → List (OptionItem α)
  | [] => [.fault]
  | value :: rest => if isOptionLike value then [.fault] else .option key value :: ofArguments rules rest

/-- What comes behind a group of letters that ends in this way. -/
def itemsBehind (rules : List (OptionRule α)) (rest : List Text) : Ending α → List (OptionItem α)
  | .closed => ofArguments rules rest
  | .given key value => .option key value :: ofArguments rules rest
  | .wanted key => itemsApart rules key rest
  | .unknown => [.fault]

/-- What comes of the name and the value of a long option. -/
def itemsLong (rules : List (OptionRule α)) (rest : List Text) : Text × Option Text → List (OptionItem α)
  | (name, value) =>
    match rules.find? (·.name = name), value with
    | none, _ => [.fault]
    | some rule, some value =>
      if rule.takesValue then .option rule.key value :: ofArguments rules rest else [.fault]
    | some rule, none =>
      if rule.takesValue then itemsApart rules rule.key rest else .flag rule.key :: ofArguments rules rest

/-- What comes of a word in front of the others, by what it holds behind two dashes. -/
def itemsOf (rules : List (OptionRule α)) (a : Text) (rest : List Text) : Option Text → List (OptionItem α)
  | some long => itemsLong rules rest (longParts long)
  | none =>
    if isOptionLike a then
      (letters rules (a.drop 1)).1.map .flag ++ itemsBehind rules rest (letters rules (a.drop 1)).2
    else .positional a :: ofArguments rules rest

theorem ofArguments_nil (rules : List (OptionRule α)) : ofArguments rules [] = [] := rfl

theorem ofArguments_cons (rules : List (OptionRule α)) (a : Text) (rest : List Text) :
    ofArguments rules (a :: rest) =
      if a = "--" then rest.map .positional else itemsOf rules a rest (Text.dropStart? "--" a) := by
  rw [ofArguments]
  cases Text.dropStart? "--" a with
  | none => rfl
  | some long => rfl

/-- How a group of letters ends with an option that takes a value, by what stands behind its letter. -/
def endingOf (key : α) : Text → Ending α
  | [] => .wanted key
  | '=' :: value => .given key value
  | value => .given key value

theorem letters_of_takesValue (hrule : rules.find? (·.letter = some c) = some rule) (hvalue : rule.takesValue)
    (t : Text) : letters rules (c :: t) = ([], endingOf rule.key t) := by
  rw [letters, hrule]
  refine (if_pos hvalue).trans ?_
  split
  case h_1 => rfl
  case h_2 => rfl
  case h_3 hempty hequals => rw [endingOf.eq_3 _ _ hempty hequals]

/-- These words say these items, whatever stands behind them. -/
def Spells (rules : List (OptionRule α)) (words : List Text) (items : List (OptionItem α)) : Prop :=
  ∀ rest, ofArguments rules (words ++ rest) = items ++ ofArguments rules rest

theorem Spells.nil (rules : List (OptionRule α)) : Spells rules [] [] := fun _ => rfl

theorem Spells.append {ws us : List Text} {xs ys : List (OptionItem α)} (hw : Spells rules ws xs)
    (hu : Spells rules us ys) : Spells rules (ws ++ us) (xs ++ ys) := by
  intro rest
  rw [List.append_assoc, hw, hu, List.append_assoc]

theorem Spells.flatMap {β : Type} {f : β → List Text} {g : β → List (OptionItem α)} {bs : List β}
    (h : ∀ b ∈ bs, Spells rules (f b) (g b)) : Spells rules (bs.flatMap f) (bs.flatMap g) := by
  induction bs with
  | nil => exact .nil rules
  | cons b bs ih =>
    rw [List.flatMap_cons, List.flatMap_cons]
    exact (h b List.mem_cons_self).append (ih fun d hd => h d (List.mem_cons_of_mem b hd))

theorem Spells.ofArguments_eq {words : List Text} {items : List (OptionItem α)} (h : Spells rules words items) :
    ofArguments rules words = items := by
  have hall := h []
  rwa [List.append_nil, ofArguments_nil, List.append_nil] at hall

theorem spells_positional {a : Text} (h : a.head? ≠ some '-') : Spells rules [a] [.positional a] := by
  intro rest
  have hdash : a ≠ "--" := by
    rintro rfl
    exact h rfl
  have hlong : Text.dropStart? "--" a = none := by
    refine Text.dropStart?_eq_none ?_
    rintro ⟨t, rfl⟩
    exact h rfl
  have hlike : isOptionLike a = false := by rw [isOptionLike, decide_eq_false h, Bool.false_and]
  rw [List.singleton_append, ofArguments_cons, if_neg hdash, hlong, itemsOf, hlike]
  rfl

section Long

theorem longParts_of_notMem {name : Text} (h : '=' ∉ name) : longParts name = (name, none) := by
  have hall : name.dropWhile (· ≠ '=') = [] := by
    rw [List.dropWhile_eq_nil_iff]
    intro d hd
    exact decide_eq_true fun he => h (he ▸ hd)
  rw [longParts, Text.cutAt?, hall]

theorem longParts_append {name : Text} (h : '=' ∉ name) (value : Text) :
    longParts (name ++ '=' :: value) = (name, some value) := by
  rw [longParts, Text.cutAt?_append h]

/-- The words of a long option without a value behind an equals sign. -/
theorem ofArguments_long (hname : rule.name ≠ []) (hequals : '=' ∉ rule.name)
    (hrule : rules.find? (·.name = rule.name) = some rule) (rest : List Text) :
    ofArguments rules (("--" ++ rule.name) :: rest) =
      if rule.takesValue then itemsApart rules rule.key rest else .flag rule.key :: ofArguments rules rest := by
  have hdash : ("--" : Text) ++ rule.name ≠ "--" := fun h => hname (List.append_right_eq_self.mp h)
  rw [ofArguments_cons, if_neg hdash, Text.dropStart?_append, itemsOf, longParts_of_notMem hequals]
  simp only [itemsLong, hrule]

theorem spells_long (hname : rule.name ≠ []) (hequals : '=' ∉ rule.name)
    (hrule : rules.find? (·.name = rule.name) = some rule) (hvalue : ¬ rule.takesValue) :
    Spells rules ["--" ++ rule.name] [.flag rule.key] := by
  intro rest
  rw [List.singleton_append, ofArguments_long hname hequals hrule, if_neg hvalue]
  rfl

theorem spells_long_apart (hname : rule.name ≠ []) (hequals : '=' ∉ rule.name)
    (hrule : rules.find? (·.name = rule.name) = some rule) (hvalue : rule.takesValue)
    (hlike : ¬ isOptionLike value) :
    Spells rules ["--" ++ rule.name, value] [.option rule.key value] := by
  intro rest
  rw [List.cons_append, ofArguments_long hname hequals hrule, if_pos hvalue]
  exact if_neg hlike

theorem spells_long_equals (hequals : '=' ∉ rule.name)
    (hrule : rules.find? (·.name = rule.name) = some rule) (hvalue : rule.takesValue) (value : Text) :
    Spells rules ["--" ++ (rule.name ++ '=' :: value)] [.option rule.key value] := by
  intro rest
  have hdash : ("--" : Text) ++ (rule.name ++ '=' :: value) ≠ "--" := by
    intro h
    simpa using List.append_right_eq_self.mp h
  rw [List.singleton_append, ofArguments_cons, if_neg hdash, Text.dropStart?_append, itemsOf,
    longParts_append hequals]
  simp only [itemsLong, hrule, hvalue, if_true]
  rfl

end Long

section Short

/-- The words of a group of letters. -/
theorem ofArguments_short (hc : c ≠ '-') (t : Text) (rest : List Text) :
    ofArguments rules (('-' :: c :: t) :: rest) =
      (letters rules (c :: t)).1.map .flag ++ itemsBehind rules rest (letters rules (c :: t)).2 := by
  have hdash : '-' :: c :: t ≠ "--" := fun h => hc (List.cons.inj (List.cons.inj h).2).1
  have hlong : Text.dropStart? "--" ('-' :: c :: t) = none := by
    refine Text.dropStart?_eq_none fun h => hc ?_
    obtain ⟨u, hu⟩ := h
    exact (List.cons.inj (List.cons.inj hu).2).1.symm
  have hlike : isOptionLike ('-' :: c :: t) = true := by simp [isOptionLike]
  rw [ofArguments_cons, if_neg hdash, hlong, itemsOf, if_pos hlike]
  rfl

theorem letters_replicate (hrule : rules.find? (·.letter = some c) = some rule) (hvalue : ¬ rule.takesValue)
    (n : Nat) : letters rules (List.replicate n c) = (List.replicate n rule.key, .closed) := by
  induction n with
  | zero => rfl
  | succ n ih =>
    rw [List.replicate_succ, List.replicate_succ, letters, hrule]
    simp only [hvalue, Bool.false_eq_true, if_false, ih]

/-- A letter may stand several times behind one dash. -/
theorem spells_letter (hc : c ≠ '-') (hrule : rules.find? (·.letter = some c) = some rule)
    (hvalue : ¬ rule.takesValue) (n : Nat) :
    Spells rules ['-' :: List.replicate (n + 1) c] (List.replicate (n + 1) (.flag rule.key)) := by
  intro rest
  have hletters := letters_replicate hrule hvalue (n + 1)
  rw [List.replicate_succ] at hletters ⊢
  rw [List.singleton_append, ofArguments_short hc, hletters, List.map_replicate]
  rfl

theorem spells_letter_apart (hc : c ≠ '-') (hrule : rules.find? (·.letter = some c) = some rule)
    (hvalue : rule.takesValue) (hlike : ¬ isOptionLike value) :
    Spells rules [['-', c], value] [.option rule.key value] := by
  intro rest
  rw [List.cons_append, ofArguments_short hc, letters_of_takesValue hrule hvalue]
  exact if_neg hlike

/-- A letter with its value in one word. -/
theorem spells_of_letters {t : Text} (hc : c ≠ '-') (h : letters rules (c :: t) = ([], .given rule.key value)) :
    Spells rules ['-' :: c :: t] [.option rule.key value] := by
  intro rest
  rw [List.singleton_append, ofArguments_short hc, h]
  rfl

theorem spells_letter_equals (hc : c ≠ '-') (hrule : rules.find? (·.letter = some c) = some rule)
    (hvalue : rule.takesValue) (value : Text) :
    Spells rules ['-' :: c :: '=' :: value] [.option rule.key value] :=
  spells_of_letters hc (letters_of_takesValue hrule hvalue ('=' :: value))

theorem spells_letter_glued (hc : c ≠ '-') (hrule : rules.find? (·.letter = some c) = some rule)
    (hvalue : rule.takesValue) (hempty : value ≠ []) (hequals : value.head? ≠ some '=') :
    Spells rules ['-' :: c :: value] [.option rule.key value] := by
  refine spells_of_letters hc ?_
  rw [letters_of_takesValue hrule hvalue, endingOf]
  · exact hempty
  · rintro t rfl
    exact hequals rfl

end Short
section Spellings

/-- The ways to write an option and its value. -/
inductive Spelling where
  | glued
  | equals
  | apart
  | longEquals
  | longApart
  deriving DecidableEq, Repr

namespace Spelling

/-- The words of an option of that letter and that long name. -/
def words (letter : Char) (name value : Text) : Spelling → List Text
  | .glued => ['-' :: letter :: value]
  | .equals => ['-' :: letter :: '=' :: value]
  | .apart => [['-', letter], value]
  | .longEquals => ["--" ++ (name ++ '=' :: value)]
  | .longApart => ["--" ++ name, value]

/-- A value that can be written in this way: alone it must not look like an option, and glued to the
letter it must be there and not begin with an equals sign. -/
def Fits (value : Text) : Spelling → Prop
  | .glued => value ≠ [] ∧ value.head? ≠ some '='
  | .apart | .longApart => ¬ isOptionLike value
  | .equals | .longEquals => True

instance (value : Text) (s : Spelling) : Decidable (s.Fits value) := by
  cases s <;> unfold Fits <;> infer_instance

end Spelling

/-- An option and its value are read alike in all their spellings. -/
theorem spells_option {s : Spelling} (hc : c ≠ '-') (hname : rule.name ≠ []) (hequals : '=' ∉ rule.name)
    (hletter : rules.find? (·.letter = some c) = some rule) (hlong : rules.find? (·.name = rule.name) = some rule)
    (hvalue : rule.takesValue) (hs : s.Fits value) :
    Spells rules (s.words c rule.name value) [.option rule.key value] := by
  cases s with
  | glued => exact spells_letter_glued hc hletter hvalue hs.1 hs.2
  | equals => exact spells_letter_equals hc hletter hvalue value
  | apart => exact spells_letter_apart hc hletter hvalue hs
  | longEquals => exact spells_long_equals hequals hlong hvalue value
  | longApart => exact spells_long_apart hname hequals hlong hvalue hs

end Spellings

end SchemaDrift.OptionItem
