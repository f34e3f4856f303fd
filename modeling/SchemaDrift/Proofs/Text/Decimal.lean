import Mathlib.Tactic.IntervalCases
import SchemaDrift.Server.Port

namespace SchemaDrift

/-- The decimal writings of a number: any zeros may stand in front of it. -/
def Text.ofNatPadded (zeros n : Nat) : Text := List.replicate zeros '0' ++ Text.ofNat n

theorem Text.isDigit_of_mem_ofNatPadded {zeros n : Nat} {c : Char} (h : c ∈ Text.ofNatPadded zeros n) :
    c.isDigit := by
  rcases List.mem_append.mp h with h | h
  · rw [List.eq_of_mem_replicate h]
    decide
  · exact Nat.isDigit_of_mem_toDigits (by decide) (by decide) h

theorem Text.ofNatPadded_ne_nil (zeros n : Nat) : Text.ofNatPadded zeros n ≠ [] :=
  List.append_ne_nil_of_right_ne_nil _ Nat.toDigits_ne_nil

namespace Decimal

variable {limit value n : Nat} {s t : Text}

theorem digit?_digitChar (h : n < 10) : digit? (Nat.digitChar n) = some n := by
  interval_cases n <;> decide

theorem readDigits_append (limit value : Nat) (s t : Text) :
    readDigits limit value (s ++ t) = readDigits limit value s >>= fun v => readDigits limit v t := by
  induction s generalizing value with
  | nil => rfl
  | cons c s ih =>
    rw [List.cons_append, readDigits, readDigits]
    cases digit? c with
    | none => rfl
    | some d =>
      dsimp only
      split
      · rfl
      · exact ih _

theorem readDigits_digitChar (h : n < 10) (hle : 10 * value + n ≤ limit) :
    readDigits limit value [Nat.digitChar n] = .ok (10 * value + n) := by
  simp only [readDigits, digit?_digitChar h, Nat.not_lt.mpr hle, if_false]

theorem readDigits_replicate_zero (limit zeros : Nat) :
    readDigits limit 0 (List.replicate zeros '0') = .ok 0 := by
  induction zeros with
  | zero => rfl
  | succ zeros ih => exact ih

theorem readDigits_ofNat (h : n ≤ limit) : readDigits limit 0 (Text.ofNat n) = .ok n := by
  induction n using Nat.strongRecOn with
  | ind n ih =>
    rw [Text.ofNat, Nat.toDigits_eq_if (by decide)]
    split
    case isTrue hn =>
      have halone : readDigits limit 0 [Nat.digitChar n] = .ok (10 * 0 + n) := readDigits_digitChar hn (by omega)
      simpa using halone
    case isFalse hn =>
      -- the digits in front of the last one are those of the tenth part
      have hfront : readDigits limit 0 (Nat.toDigits 10 (n / 10)) = .ok (n / 10) := ih (n / 10) (by omega) (by omega)
      have hlast : readDigits limit (n / 10) [Nat.digitChar (n % 10)] = .ok (10 * (n / 10) + n % 10) :=
        readDigits_digitChar (Nat.mod_lt n (by decide)) (by omega)
      rw [readDigits_append, hfront]
      refine hlast.trans ?_
      rw [Nat.div_add_mod]

theorem read_eq_readDigits (hne : t ≠ []) (hplus : t.head? ≠ some '+') : read limit t = readDigits limit 0 t := by
  cases t with
  | nil => exact absurd rfl hne
  | cons c r =>
    have hc : c ≠ '+' := fun h => hplus (by rw [h]; rfl)
    rw [read.eq_def]
    split <;> simp_all

theorem read_ofNatPadded (zeros : Nat) (h : n ≤ limit) : read limit (Text.ofNatPadded zeros n) = .ok n := by
  have hplus : (Text.ofNatPadded zeros n).head? ≠ some '+' := by
    intro hhead
    have hdigit := Text.isDigit_of_mem_ofNatPadded (List.mem_of_mem_head? hhead)
    exact absurd hdigit (by decide)
  rw [read_eq_readDigits (Text.ofNatPadded_ne_nil zeros n) hplus, Text.ofNatPadded, readDigits_append,
    readDigits_replicate_zero]
  exact readDigits_ofNat h

theorem eq_digitChar_of_digit? {c : Char} {d : Nat} (h : digit? c = some d) : d < 10 ∧ c = Nat.digitChar d := by
  rw [digit?, Option.ite_none_right_eq_some] at h
  obtain ⟨⟨hlow, hhigh⟩, hd⟩ := h
  have hlow : 48 ≤ c.toNat := hlow
  have hhigh : c.toNat ≤ 57 := hhigh
  have hd : c.toNat - 48 = d := Option.some.inj hd
  have hlt : d < 10 := by omega
  refine ⟨hlt, Char.toNat_inj.mp ?_⟩
  rw [Nat.toNat_digitChar_of_lt_ten hlt]
  omega

/-- Digits behind those of a number are the further digits of the number that is read. -/
theorem ofNat_append_of_readDigits (hv : 0 < value) (h : readDigits limit value t = .ok n) :
    Text.ofNat value ++ t = Text.ofNat n := by
  induction t generalizing value with
  | nil =>
    cases h
    exact List.append_nil _
  | cons c t ih =>
    rw [readDigits] at h
    split at h
    case h_1 => cases h
    case h_2 d hd =>
      split at h
      case isTrue => cases h
      case isFalse =>
        obtain ⟨hlt, rfl⟩ := eq_digitChar_of_digit? hd
        have hdigits : Text.ofNat value ++ [Nat.digitChar d] = Text.ofNat (10 * value + d) := by
          rw [← Nat.toDigits_of_lt_base hlt]
          exact Nat.toDigits_append_toDigits (by decide) hv hlt
        rw [← ih (by omega) h, ← hdigits, List.append_assoc, List.singleton_append]

/-- A text is read as a number exactly if it is one of its decimal writings. -/
theorem readDigits_eq_ok_iff (hne : t ≠ []) :
    readDigits limit 0 t = .ok n ↔ n ≤ limit ∧ ∃ zeros, t = Text.ofNatPadded zeros n := by
  constructor
  · intro h
    refine ⟨readDigits_le (Nat.zero_le _) h, ?_⟩
    induction t with
    | nil => exact absurd rfl hne
    | cons c t ih =>
      rw [readDigits] at h
      split at h
      case h_1 => cases h
      case h_2 d hd =>
        split at h
        case isTrue => cases h
        case isFalse =>
          obtain ⟨hlt, rfl⟩ := eq_digitChar_of_digit? hd
          rw [Nat.mul_zero, Nat.zero_add] at h
          by_cases hzero : d = 0
          · subst hzero
            by_cases hlast : t = []
            · subst hlast
              cases h
              exact ⟨0, rfl⟩
            · obtain ⟨zeros, hzeros⟩ := ih hlast h
              refine ⟨zeros + 1, ?_⟩
              rw [hzeros]
              rfl
          · refine ⟨0, ?_⟩
            have hdigits := ofNat_append_of_readDigits (Nat.pos_of_ne_zero hzero) h
            rw [Text.ofNat, Nat.toDigits_of_lt_base hlt] at hdigits
            exact hdigits
  · rintro ⟨hle, zeros, rfl⟩
    rw [Text.ofNatPadded, readDigits_append, readDigits_replicate_zero]
    exact readDigits_ofNat hle

/-- A text without a sign is read as a number exactly if it is one of its decimal writings. -/
theorem read_eq_ok_iff (hplus : t.head? ≠ some '+') :
    read limit t = .ok n ↔ n ≤ limit ∧ ∃ zeros, t = Text.ofNatPadded zeros n := by
  by_cases hne : t = []
  · subst hne
    constructor
    · intro h
      cases h
    · rintro ⟨-, zeros, h⟩
      exact absurd h.symm (Text.ofNatPadded_ne_nil zeros n)
  · rw [read_eq_readDigits hne hplus, readDigits_eq_ok_iff hne]

end Decimal

namespace Port

variable {p : Port} {t : Text}

theorem read_eq_ok_iff : read t = .ok p ↔ Decimal.read 65535 t = .ok p.val := by
  unfold read
  split
  next e h => simp [h]
  next n h => simp [h, Fin.ext_iff]

/-- A port is read back from each of its decimal writings. -/
theorem read_ofNatPadded (zeros : Nat) (p : Port) : read (Text.ofNatPadded zeros p.val) = .ok p := by
  rw [read_eq_ok_iff]
  exact Decimal.read_ofNatPadded zeros (Nat.le_of_lt_succ p.isLt)

theorem text_eq_ofNatPadded (p : Port) : p.text = Text.ofNatPadded 0 p.val := rfl

theorem isDigit_of_mem_text {c : Char} (h : c ∈ p.text) : c.isDigit := by
  rw [text_eq_ofNatPadded] at h
  exact Text.isDigit_of_mem_ofNatPadded h

end Port

end SchemaDrift
