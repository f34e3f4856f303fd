import SchemaDrift.Text.Decimal

namespace SchemaDrift

/-- A port number has sixteen bits. -/
abbrev Port := Fin 65536

namespace Decimal

theorem read_le {limit n : Nat} {t : Text} (h : read limit t = .ok n) : n ≤ limit := by
  unfold read at h
  split at h
  · simp at h
  · simp at h
  · exact readDigits_le (Nat.zero_le _) h
  · exact readDigits_le (Nat.zero_le _) h

end Decimal

namespace Port

def default : Port := 3306

def zero : Port := 0

def text (p : Port) : Text := Text.ofNat p.val

/-- The port a decimal text names. -/
def read (t : Text) : Except DecimalFault Port :=
  match h : Decimal.read 65535 t with
  | .error e => .error e
  | .ok n => .ok ⟨n, Nat.lt_succ_of_le (Decimal.read_le h)⟩

end Port
end SchemaDrift
