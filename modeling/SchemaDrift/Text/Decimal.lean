import SchemaDrift.Text.Basic

namespace SchemaDrift

/-- Why a text is not a decimal number within its limit. -/
inductive DecimalFault where
  | empty
  | invalidDigit
  | tooLarge
  deriving DecidableEq, Repr

def DecimalFault.message : DecimalFault → Text
  | .empty => "cannot parse integer from empty string"
  | .invalidDigit => "invalid digit found in string"
  | .tooLarge => "number too large to fit in target type"

namespace Decimal

/-- The value of a decimal digit. -/
def digit? (c : Char) : Option Nat :=
  if '0' ≤ c ∧ c ≤ '9' then some (c.toNat - '0'.toNat) else none

/-- Reads digits behind a value; the first character that is no digit, or that brings the value
above the limit, decides the fault. -/
def readDigits (limit : Nat) : Nat → Text → Except DecimalFault Nat
  | value, [] => .ok value
  | value, c :: r =>
    match digit? c with
    | none => .error .invalidDigit
    | some d => if limit < 10 * value + d then .error .tooLarge else readDigits limit (10 * value + d) r

/-- Reads a whole text as a decimal number up to `limit`; one leading plus sign is allowed. -/
def read (limit : Nat) : Text → Except DecimalFault Nat
  | [] => .error .empty
  | ['+'] => .error .invalidDigit
  | '+' :: r => readDigits limit 0 r
  | t => readDigits limit 0 t

/-- What is read never exceeds the limit. -/
theorem readDigits_le {limit value n : Nat} {t : Text} (hv : value ≤ limit)
    (h : readDigits limit value t = .ok n) : n ≤ limit := by
  induction t generalizing value with
  | nil => simp_all [readDigits]
  | cons c r ih =>
    simp only [readDigits] at h
    split at h
    · simp at h
    · split at h
      · simp at h
      · exact ih (by omega) h

end Decimal
end SchemaDrift
