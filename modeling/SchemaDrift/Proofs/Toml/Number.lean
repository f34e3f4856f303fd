import Mathlib.Data.List.Basic
import Mathlib.Tactic.IntervalCases
import SchemaDrift.Proofs.Text.Pieces
import SchemaDrift.Server.Port
import SchemaDrift.Toml.Number

namespace SchemaDrift.Toml

variable {c : Char} {r t : Text}

/-- What stands behind the digits of a number here: neither a digit nor another sign of a number, a date or a time. -/
def EndsNumber (r : Text) : Prop :=
  ∀ c ∈ r.head?, ¬ c.isDigit ∧ c ∉ ['_', '.', '-', ':', 'e', 'E', 'x', 'o', 'b']

theorem digits_append (ht : ∀ c ∈ t, c.isDigit) (hr : EndsNumber r) : digits Char.isDigit (t ++ r) = (t, r) := by
  induction t with
  | nil =>
    rw [List.nil_append, digits.eq_def]
    split
    case h_1 => exact absurd (by decide) (hr '_' rfl).2
    case h_2 => exact if_neg (hr _ rfl).1
    case h_3 => rfl
  | cons c t ih =>
    have hc := ht c List.mem_cons_self
    rw [List.cons_append, digits.eq_def]
    split
    case h_1 h =>
      obtain ⟨rfl, -⟩ := List.cons.inj h
      exact absurd hc (by decide)
    case h_2 h =>
      obtain ⟨rfl, rfl⟩ := List.cons.inj h
      rw [if_pos hc, ih fun d hd => ht d (List.mem_cons_of_mem c hd)]
    case h_3 h => cases h

/-- What takes so many digits off goes no further than to their end. -/
theorem fixed?_append {n low high v : Nat} {s : Text} (ht : ∀ c ∈ t, c.isDigit) (hr : EndsNumber r)
    (h : fixed? n low high (t ++ r) = some (v, s)) : ∃ u, s = u ++ r ∧ ∀ c ∈ u, c.isDigit := by
  simp only [fixed?] at h
  split at h
  case isFalse => cases h
  case isTrue hdigits =>
    rw [Bool.and_eq_true, decide_eq_true_iff, List.all_eq_true] at hdigits
    have hn : n ≤ t.length := by
      by_contra hlong
      obtain ⟨hlength, hall⟩ := hdigits
      cases r with
      | nil =>
        rw [List.append_nil, List.length_take] at hlength
        omega
      | cons c r =>
        refine (hr c rfl).1 (hall c ?_)
        rw [List.take_append, List.mem_append]
        obtain ⟨m, hm⟩ := Nat.exists_eq_add_of_lt (Nat.not_le.mp hlong)
        rw [hm, Nat.add_assoc, Nat.add_sub_cancel_left]
        exact .inr List.mem_cons_self
    split at h
    case isFalse => cases h
    case isTrue =>
      cases h
      exact ⟨t.drop n, List.drop_append_of_le_length hn, fun c hc => ht c (List.mem_of_mem_drop hc)⟩

theorem dropStart?_of_digits (ht : ∀ c ∈ t, c.isDigit) (hr : EndsNumber r) (hc : c ∈ ['-', ':']) :
    Text.dropStart? [c] (t ++ r) = none := by
  obtain ⟨hdigit, hmark⟩ : ¬ c.isDigit ∧ c ∈ ['_', '.', '-', ':', 'e', 'E', 'x', 'o', 'b'] := by
    simp only [List.mem_cons, List.not_mem_nil, or_false] at hc
    rcases hc with rfl | rfl <;> decide
  refine Text.dropStart?_eq_none ?_
  rintro ⟨s, hs⟩
  cases t with
  | nil =>
    rw [← List.nil_append r, ← hs] at hr
    exact (hr c rfl).2 hmark
  | cons d t =>
    obtain ⟨rfl, -⟩ := List.cons.inj hs
    exact hdigit (ht c List.mem_cons_self)

/-- Plain digits are neither a date nor a time. -/
theorem dateTime?_eq_none (ht : ∀ c ∈ t, c.isDigit) (hr : EndsNumber r) : dateTime? (t ++ r) = none := by
  have hdate : afterDate? (t ++ r) = none := by
    rw [afterDate?]
    cases h : fixed? 4 0 9999 (t ++ r) with
    | none => rfl
    | some p =>
      obtain ⟨u, hs, hu⟩ := fixed?_append ht hr h
      simp [hs, dropStart?_of_digits hu hr]
  have htime : afterTime? (t ++ r) = none := by
    rw [afterTime?]
    cases h : fixed? 2 0 23 (t ++ r) with
    | none => rfl
    | some p =>
      obtain ⟨u, hs, hu⟩ := fixed?_append ht hr h
      simp [hs, dropStart?_of_digits hu hr]
  rw [dateTime?, hdate, htime]
  rfl

theorem isDigit_of_mem_ofNat {n : Nat} (h : c ∈ Text.ofNat n) : c.isDigit :=
  Nat.isDigit_of_mem_toDigits (by decide) (by decide) h

/-- A number other than zero has no zero in front. -/
theorem head?_ofNat {n : Nat} (hn : 0 < n) : (Text.ofNat n).head? ≠ some '0' := by
  induction n using Nat.strongRecOn with
  | ind n ih =>
    rw [Text.ofNat, Nat.toDigits_eq_if (by decide)]
    split
    case isTrue h => interval_cases n <;> decide
    case isFalse h =>
      rw [List.head?_append_of_ne_nil _ Nat.toDigits_ne_nil]
      exact ih (n / 10) (by omega) (by omega)

theorem exists_ofNat_eq_cons (n : Nat) : ∃ c t, Text.ofNat n = c :: t ∧ c.isDigit := by
  obtain ⟨c, t, ht⟩ : ∃ c t, Text.ofNat n = c :: t := List.exists_cons_of_ne_nil Nat.toDigits_ne_nil
  exact ⟨c, t, ht, isDigit_of_mem_ofNat (ht ▸ List.mem_cons_self)⟩

theorem decimalDigits?_ofNat (n : Nat) (hr : EndsNumber r) :
    decimalDigits? (Text.ofNat n ++ r) = some (Text.ofNat n, r) := by
  rcases Nat.eq_zero_or_pos n with rfl | hn
  · rfl
  · have hread := digits_append (fun c => isDigit_of_mem_ofNat (n := n)) hr
    have hhead := head?_ofNat hn
    obtain ⟨c, t, ht, hc⟩ := exists_ofNat_eq_cons n
    rw [ht] at hread hhead ⊢
    have hzero : c ≠ '0' := fun h => hhead (congrArg some h)
    rw [List.cons_append] at hread ⊢
    simp [decimalDigits?, digits?, hzero, hc, hread]

theorem valueOf_ofNat (n : Nat) : valueOf 10 (Text.ofNat n) = n := by
  have hfold (t : Text) (ht : ∀ c ∈ t, c.isDigit) (m : Nat) :
      t.foldl (fun n c => 10 * n + (Percent.hexValue? c).getD 0) m = Nat.ofDigitChars 10 t m := by
    induction t generalizing m with
    | nil => rfl
    | cons c t ih =>
      have hc := Char.isDigit_iff_toNat.mp (ht c List.mem_cons_self)
      have hvalue : Percent.hexValue? c = some (c.toNat - 48) := if_pos hc
      rw [List.foldl_cons, hvalue, Nat.ofDigitChars_cons]
      exact ih (fun d hd => ht d (List.mem_cons_of_mem c hd)) _
  exact (hfold _ (fun c => isDigit_of_mem_ofNat) 0).trans Nat.ofDigitChars_ten_toDigits

theorem signed_of_digit (hc : c.isDigit) (t : Text) : signed (c :: t) = (false, c :: t) := by
  unfold signed
  split
  case h_1 h =>
    obtain ⟨rfl, -⟩ := List.cons.inj h
    exact absurd hc (by decide)
  case h_2 h =>
    obtain ⟨rfl, -⟩ := List.cons.inj h
    exact absurd hc (by decide)
  case h_3 => rfl

theorem dropStart?_of_digit {d : Char} (hc : c.isDigit) (hd : ¬ d.isDigit) (s t : Text) :
    Text.dropStart? (d :: s) (c :: t) = none := by
  refine Text.dropStart?_eq_none fun h => hd ?_
  rwa [(List.cons_prefix_cons.mp h).1]

theorem float?_eq_none (n : Nat) (hr : EndsNumber r) : float? (Text.ofNat n ++ r) = none := by
  have hdigits := decimalDigits?_ofNat n hr
  obtain ⟨c, t, ht, hc⟩ := exists_ofNat_eq_cons n
  rw [ht, List.cons_append] at hdigits ⊢
  have hinf : Text.dropStart? "inf" (c :: (t ++ r)) = none := dropStart?_of_digit hc (by decide) "nf" (t ++ r)
  have hnan : Text.dropStart? "nan" (c :: (t ++ r)) = none := dropStart?_of_digit hc (by decide) "an" (t ++ r)
  -- behind the digits comes neither a fraction nor an exponent
  rw [float?, signed_of_digit hc]
  simp only [hinf, hnan, hdigits]
  cases r with
  | nil => rfl
  | cons d r =>
    obtain ⟨-, hmarks⟩ := hr d rfl
    simp only [List.mem_cons, not_or] at hmarks
    simp [hmarks]

/-- No mark of another base stands behind the first digit. -/
theorem ofNat_append_ne_marked {n : Nat} (hr : EndsNumber r) (hc : c ∈ ['x', 'o', 'b']) (s : Text) :
    Text.ofNat n ++ r ≠ '0' :: c :: s := by
  obtain ⟨hdigit, hmark⟩ : ¬ c.isDigit ∧ c ∈ ['_', '.', '-', ':', 'e', 'E', 'x', 'o', 'b'] := by
    simp only [List.mem_cons, List.not_mem_nil, or_false] at hc
    rcases hc with rfl | rfl | rfl <;> decide
  intro h
  obtain ⟨d, t, ht, -⟩ := exists_ofNat_eq_cons n
  rw [ht, List.cons_append] at h
  obtain ⟨-, h⟩ := List.cons.inj h
  cases t with
  | nil =>
    rw [List.nil_append] at h
    exact (hr c (h ▸ rfl)).2 hmark
  | cons e t =>
    obtain ⟨rfl, -⟩ := List.cons.inj h
    exact hdigit (isDigit_of_mem_ofNat (ht ▸ List.mem_cons_of_mem d List.mem_cons_self))

theorem integer?_append (p : Port) (hr : EndsNumber r) : integer? (p.text ++ r) = some (.integer p.val, r) := by
  have hdigits := decimalDigits?_ofNat p.val hr
  have hsigned : signed (Text.ofNat p.val ++ r) = (false, Text.ofNat p.val ++ r) := by
    obtain ⟨c, t, ht, hc⟩ := exists_ofNat_eq_cons p.val
    rw [ht, List.cons_append, signed_of_digit hc]
  have hbounded : bounded? (valueOf 10 (Text.ofNat p.val) : Nat) = some (.integer p.val) := by
    have hp := p.isLt
    rw [valueOf_ofNat, bounded?, if_pos (by omega)]
  unfold integer?
  split
  case h_1 h => exact absurd h (ofNat_append_ne_marked hr (by decide) _)
  case h_2 h => exact absurd h (ofNat_append_ne_marked hr (by decide) _)
  case h_3 h => exact absurd h (ofNat_append_ne_marked hr (by decide) _)
  case h_4 =>
    rw [Port.text, hsigned]
    dsimp only
    rw [hdigits, Option.bind_eq_bind, Option.bind_some]
    change (bounded? (valueOf 10 (Text.ofNat p.val) : Nat) >>= fun v => some (v, r)) = _
    rw [hbounded]
    rfl

theorem number?_append (p : Port) (hr : EndsNumber r) : number? (p.text ++ r) = some (.integer p.val, r) := by
  rw [number?, integer?_append p hr, Port.text, dateTime?_eq_none (fun c => isDigit_of_mem_ofNat) hr,
    float?_eq_none p.val hr]
  rfl

end SchemaDrift.Toml
