import SchemaDrift.Text.Basic

namespace SchemaDrift

/-- A fraction with a sign of its own, as machines keep decimal numbers that they cannot hold exactly. -/
structure Fraction where
  negative : Bool
  numerator : Nat
  denominator : Nat
  deriving DecidableEq, Repr

namespace Fraction

/-- A quotient of a number with a sign. -/
def ofQuotient (n : Int) (d : Nat) : Fraction := ⟨n < 0, n.natAbs, d⟩

def ofInt (n : Int) : Fraction := ofQuotient n 1

/-- The numerator with the sign of the whole. -/
def above (x : Fraction) : Int := if x.negative then -x.numerator else x.numerator

def add (a b : Fraction) : Fraction :=
  ofQuotient (a.above * b.denominator + b.above * a.denominator) (a.denominator * b.denominator)

def neg (a : Fraction) : Fraction := ofQuotient (-a.above) a.denominator

def mul (a b : Fraction) : Fraction := ofQuotient (a.above * b.above) (a.denominator * b.denominator)

/-- The quotient of two numbers, the second of which is not zero. -/
def div (a b : Fraction) : Fraction :=
  let n : Int := a.above * b.denominator
  ofQuotient (if b.negative then -n else n) (a.denominator * b.numerator)

/-- The number without what stands behind its point. -/
def truncated (a : Fraction) : Int := a.above.tdiv a.denominator

def compare (a b : Fraction) : Ordering := Ord.compare (a.above * b.denominator) (b.above * a.denominator)

/-- A quotient rounded to a whole number; a half goes to the even neighbour. -/
def roundHalfEven (n d : Nat) : Nat :=
  let q := n / d
  let r := n % d
  if 2 * r < d then q else if d < 2 * r then q + 1 else if q % 2 = 0 then q else q + 1

/-- The exponent `e` for which a positive quotient lies between `2 ^ e` and `2 ^ (e + 1)`. -/
def binaryExponent (n d : Nat) : Int :=
  let e : Int := (Nat.log2 n : Int) - Nat.log2 d
  let isBelow := if 0 ≤ e then n < d * 2 ^ e.toNat else n * 2 ^ (-e).toNat < d
  if isBelow then e - 1 else e

/-- The nearest number with so many binary digits. -/
def kept (digits : Nat) (x : Fraction) : Fraction :=
  if x.numerator = 0 then x
  else
    let shift : Int := (digits : Int) - 1 - binaryExponent x.numerator x.denominator
    if 0 ≤ shift then
      { x with
        numerator := roundHalfEven (x.numerator * 2 ^ shift.toNat) x.denominator
        denominator := 2 ^ shift.toNat }
    else
      { x with
        numerator := roundHalfEven x.numerator (x.denominator * 2 ^ (-shift).toNat) * 2 ^ (-shift).toNat
        denominator := 1 }

/-- Reads a decimal number at the front of a text, with an exponent if there is one, and gives what follows it. -/
def read? (t : Text) : Option (Fraction × Text) :=
  let (negative, t) : Bool × Text := match t with
    | '-' :: r => (true, r)
    | '+' :: r => (false, r)
    | t => (false, t)
  let whole := t.takeWhile Char.isDigit
  let t := t.drop whole.length
  let (further, t) : Text × Text := match t with
    | '.' :: r => (r.takeWhile Char.isDigit, r.dropWhile Char.isDigit)
    | t => ([], t)
  if whole = [] ∧ further = [] then none
  else
    let value (ds : Text) : Nat := ds.foldl (fun n c => 10 * n + (c.toNat - 48)) 0
    let (isDown, size, t) : Bool × Nat × Text := match t with
      | e :: r =>
        if e = 'e' ∨ e = 'E' then
          let (isDown, s) : Bool × Text := match r with
            | '-' :: s => (true, s)
            | '+' :: s => (false, s)
            | s => (false, s)
          let ds := s.takeWhile Char.isDigit
          if ds = [] then (false, 0, t) else (isDown, min (value ds) 5000, s.drop ds.length)
        else (false, 0, t)
      | [] => (false, 0, t)
    let n := value (whole ++ further)
    let d := 10 ^ further.length
    some (if isDown then ⟨negative, n, d * 10 ^ size⟩ else ⟨negative, n * 10 ^ size, d⟩, t)

def sign (x : Fraction) : Text := if x.negative then ['-'] else []

/-- A whole number with a point in front of its last digits. -/
def pointed (places n : Nat) : Text :=
  if places = 0 then Text.ofNat n
  else
    let digits := Text.ofNat n
    let digits := List.replicate (places + 1 - digits.length) '0' ++ digits
    digits.take (digits.length - places) ++ '.' :: digits.drop (digits.length - places)

/-- The number with so many digits behind the point, without its sign. -/
def fixed (places : Nat) (x : Fraction) : Text :=
  pointed places (roundHalfEven (x.numerator * 10 ^ places) x.denominator)

/-- The exponent `e` for which a positive number lies between `10 ^ e` and `10 ^ (e + 1)`. -/
def decimalExponent (x : Fraction) : Int :=
  let e : Int := ((Text.ofNat x.numerator).length : Int) - (Text.ofNat x.denominator).length
  let isBelow := if 0 ≤ e then x.numerator < x.denominator * 10 ^ e.toNat
    else x.numerator * 10 ^ (-e).toNat < x.denominator
  if isBelow then e - 1 else e

/-- The digits of a number, one in front of the point and so many behind it, and its exponent. -/
def digits (places : Nat) (x : Fraction) : Nat × Int :=
  if x.numerator = 0 then (0, 0)
  else
    let e := decimalExponent x
    let shift : Int := places - e
    let m := if 0 ≤ shift then roundHalfEven (x.numerator * 10 ^ shift.toNat) x.denominator
      else roundHalfEven x.numerator (x.denominator * 10 ^ (-shift).toNat)
    if 10 ^ (places + 1) ≤ m then (m / 10, e + 1) else (m, e)

def exponentText (e : Int) : Text :=
  let ds := Text.ofNat e.natAbs
  (if e < 0 then ['-'] else ['+']) ++ List.replicate (2 - ds.length) '0' ++ ds

/-- The number as digits times a power of ten, without its sign. -/
def scientific (places : Nat) (x : Fraction) : Text :=
  let (m, e) := x.digits places
  pointed places m ++ 'e' :: exponentText e

/-- The number without the zeros at its end behind the point. -/
def withoutZeros (t : Text) : Text :=
  if t.contains '.' then
    let t := (t.reverse.dropWhile (· = '0')).reverse
    if t.getLast? = some '.' then t.dropLast else t
  else t

/-- The number in the shorter of the two ways with so many digits in all, without its sign. -/
def general (size : Nat) (x : Fraction) : Text :=
  let size := max size 1
  let (m, e) := x.digits (size - 1)
  if e < -4 ∨ (size : Int) ≤ e then withoutZeros (pointed (size - 1) m) ++ 'e' :: exponentText e
  else withoutZeros (x.fixed ((size : Int) - 1 - e).toNat)

end Fraction
end SchemaDrift
