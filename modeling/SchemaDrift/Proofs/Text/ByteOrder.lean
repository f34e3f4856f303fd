import SchemaDrift.Text.Utf8
import Mathlib.Data.Nat.Basic

namespace SchemaDrift.Utf8

/-- The last `k` bytes of the character of number `n`, each with six of its bits. -/
def tailBytes (n : Nat) : Nat → List UInt8
  | 0 => []
  | k + 1 => UInt8.ofNat (0x80 + n / 64 ^ k % 64) :: tailBytes n k

/-- How many bytes follow the first one of a character of that number. -/
def tailCount (n : Nat) : Nat :=
  if n < 0x80 then 0 else if n < 0x800 then 1 else if n < 0x10000 then 2 else 3

/-- The least first byte of a character with so many bytes behind it. -/
def leastLead : Nat → Nat
  | 0 => 0
  | 1 => 0xC0
  | 2 => 0xE0
  | _ => 0xF0

/-- The first byte of the character of that number. -/
def lead (n : Nat) : Nat := leastLead (tailCount n) + n / 64 ^ tailCount n

theorem encodeChar_eq (c : Char) :
    encodeChar c = UInt8.ofNat (lead c.toNat) :: tailBytes c.toNat (tailCount c.toNat) := by
  rw [encodeChar, lead, tailCount]
  split
  · simp [leastLead, tailBytes]
  · split
    · simp [leastLead, tailBytes]
    · split <;> simp [leastLead, tailBytes]

theorem ofNat_lt_ofNat {a b : Nat} (h : a < b) (hb : b < 256) : UInt8.ofNat a < UInt8.ofNat b := by
  rw [UInt8.lt_iff_toNat_lt, UInt8.toNat_ofNat', UInt8.toNat_ofNat']
  omega

theorem lead_lt {n : Nat} (h : n < 0x110000) : lead n < 256 := by
  rw [lead, tailCount]
  split
  · simp only [leastLead, Nat.pow_zero]
    omega
  · split
    · simp only [leastLead, Nat.pow_one]
      omega
    · split <;> simp only [leastLead] <;> omega

/-- A character of more bytes has the greater first byte. -/
theorem lead_lt_lead_of_tailCount_lt {n m : Nat} (h : tailCount n < tailCount m) :
    lead n < lead m := by
  unfold lead
  unfold tailCount at h ⊢
  split_ifs at h ⊢ <;> simp only [leastLead, Nat.pow_zero, Nat.pow_one] <;> omega

theorem tailCount_mono {n m : Nat} (h : n ≤ m) : tailCount n ≤ tailCount m := by
  unfold tailCount
  split_ifs <;> omega

section Order

variable {n m : Nat} {c d : Char} {s t : List UInt8}

/-- Of two numbers that agree above their last bits, the smaller one has the smaller last bytes. -/
theorem tailBytes_append_lt {k : Nat} (h : n < m) (hk : n / 64 ^ k = m / 64 ^ k) :
    tailBytes n k ++ s < tailBytes m k ++ t := by
  induction k with
  | zero =>
    rw [Nat.pow_zero, Nat.div_one, Nat.div_one] at hk
    exact absurd hk (Nat.ne_of_lt h)
  | succ k ih =>
    have hle : n / 64 ^ k ≤ m / 64 ^ k := Nat.div_le_div_right (Nat.le_of_lt h)
    have hquot : n / 64 ^ k / 64 = m / 64 ^ k / 64 := by
      rwa [Nat.pow_succ, ← Nat.div_div_eq_div_mul, ← Nat.div_div_eq_div_mul] at hk
    simp only [tailBytes, List.cons_append]
    rw [List.cons_lt_cons_iff]
    rcases Nat.eq_or_lt_of_le hle with heq | hlt
    · rw [heq]
      exact .inr ⟨rfl, ih heq⟩
    · exact .inl (ofNat_lt_ofNat (by omega) (by omega))

theorem encodeChar_append_lt (h : c < d) : encodeChar c ++ s < encodeChar d ++ t := by
  have hlt : c.toNat < d.toNat := h
  have hd : d.toNat < 0x110000 := by
    rcases d.valid with hv | hv
    · exact Nat.lt_trans hv (by decide)
    · exact hv.2
  rw [encodeChar_eq, encodeChar_eq, List.cons_append, List.cons_append, List.cons_lt_cons_iff]
  rcases Nat.eq_or_lt_of_le (tailCount_mono (Nat.le_of_lt hlt)) with heq | hcount
  · have hle : c.toNat / 64 ^ tailCount c.toNat ≤ d.toNat / 64 ^ tailCount c.toNat :=
      Nat.div_le_div_right (Nat.le_of_lt hlt)
    rcases Nat.eq_or_lt_of_le hle with hquot | hquot
    · refine .inr ⟨?_, ?_⟩
      · rw [lead, lead, ← heq, hquot]
      · rw [← heq]
        exact tailBytes_append_lt hlt hquot
    · refine .inl (ofNat_lt_ofNat ?_ (lead_lt hd))
      rw [lead, lead, ← heq]
      exact Nat.add_lt_add_left hquot _
  · exact .inl (ofNat_lt_ofNat (lead_lt_lead_of_tailCount_lt hcount) (lead_lt hd))

theorem encode_cons (c : Char) (a : Text) : encode (c :: a) = encodeChar c ++ encode a := rfl

theorem encode_lt_encode {a b : Text} (h : a < b) : encode a < encode b := by
  induction h with
  | nil =>
    rw [encode_cons, encodeChar_eq, List.cons_append]
    exact List.nil_lt_cons _ _
  | cons _ ih =>
    rw [encode_cons, encode_cons]
    exact List.append_left_lt ih
  | rel h =>
    rw [encode_cons, encode_cons]
    exact encodeChar_append_lt h

/-- The order of the bytes of two texts is the order of their code points. -/
theorem encode_lt_encode_iff {a b : Text} : encode a < encode b ↔ a < b := by
  refine ⟨fun h => ?_, encode_lt_encode⟩
  by_contra hab
  rcases List.le_iff_lt_or_eq.mp (List.not_lt.mp hab) with hba | rfl
  · exact List.lt_asymm h (encode_lt_encode hba)
  · exact List.lt_irrefl _ h

end Order

end SchemaDrift.Utf8
