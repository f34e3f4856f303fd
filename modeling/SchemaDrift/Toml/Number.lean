import SchemaDrift.Text.Decimal
import SchemaDrift.Toml.Quoted
import SchemaDrift.Toml.Value

namespace SchemaDrift.Toml

/-- Digits, with single underscores between them, and what follows. -/
def digits (isDigit : Char → Bool) (t : Text) : Text × Text :=
  match t with
  | '_' :: c :: r => if isDigit c then let (ds, r) := digits isDigit r; (c :: ds, r) else ([], t)
  | c :: r => if isDigit c then let (ds, r) := digits isDigit r; (c :: ds, r) else ([], t)
  | [] => ([], [])

/-- At least one digit. -/
def digits? (isDigit : Char → Bool) (t : Text) : Option (Text × Text) :=
  match t with
  | c :: _ => if isDigit c then some (digits isDigit t) else none
  | [] => none

def signed (t : Text) : Bool × Text :=
  match t with
  | '-' :: r => (true, r)
  | '+' :: r => (false, r)
  | t => (false, t)

/-- The digits of a decimal number, which start with zero only if they are zero. -/
def decimalDigits? (t : Text) : Option (Text × Text) :=
  match t with
  | '0' :: r => some (['0'], r)
  | t => digits? Char.isDigit t

def valueOf (base : Nat) (ds : Text) : Nat := ds.foldl (fun n c => base * n + (Percent.hexValue? c).getD 0) 0

/-- A number that has sixty-four bits. -/
def bounded? (n : Int) : Option Value := if -(2 ^ 63) ≤ n ∧ n < 2 ^ 63 then some (.integer n) else none

/-- An integer in base ten, or in base two, eight or sixteen behind its mark and without sign. -/
def integer? (t : Text) : Option (Value × Text) :=
  let marked (base : Nat) (isDigit : Char → Bool) (r : Text) : Option (Value × Text) := do
    let (ds, r) ← digits? isDigit r
    return (← bounded? (valueOf base ds), r)
  match t with
  | '0' :: 'x' :: r => marked 16 (fun c => (Percent.hexValue? c).isSome) r
  | '0' :: 'o' :: r => marked 8 (fun c => '0' ≤ c && c ≤ '7') r
  | '0' :: 'b' :: r => marked 2 (fun c => c = '0' || c = '1') r
  | t => do
    let (negative, r) := signed t
    let (ds, r) ← decimalDigits? r
    let n : Int := valueOf 10 ds
    return (← bounded? (if negative then -n else n), r)

/-- Whether the decimal number `m * 10 ^ e` lies above all floats of sixty-four bits. -/
def isAboveFloats (m : Nat) (e : Int) : Bool :=
  let least := 2 ^ 1024 - 2 ^ 970
  let places : Int := (Nat.toDigits 10 m).length + e
  if m = 0 || places < 300 then false
  else if 320 < places then true
  else match e with
    | .ofNat e => least ≤ m * 10 ^ e
    | .negSucc e => least * 10 ^ (e + 1) ≤ m

/-- The exponent of a float. -/
def exponent? (t : Text) : Option (Int × Text) := do
  let (negative, r) := signed t
  let (ds, r) ← digits? Char.isDigit r
  let n : Int := valueOf 10 ds
  return (if negative then -n else n, r)

/-- A float: a number with a fraction, an exponent or both, `inf` or `nan`. -/
def float? (t : Text) : Option (Value × Text) := do
  let (negative, r) := signed t
  let written (rest : Text) : Value × Text := (.float (t.take (t.length - rest.length)), rest)
  if let some rest := Text.dropStart? "inf" r then return written rest
  if let some rest := Text.dropStart? "nan" r then return written rest
  let (whole, r) ← decimalDigits? r
  let (fraction, r) ← match r with
    | '.' :: r => (digits? Char.isDigit r)
    | r => some ([], r)
  let (exponent, rest) ← match r with
    | 'e' :: r | 'E' :: r => (exponent? r).map fun (n, r) => (some n, r)
    | r => some (none, r)
  if fraction = [] && exponent.isNone then none
  else if !negative && isAboveFloats (valueOf 10 (whole ++ fraction)) (exponent.getD 0 - fraction.length) then none
  else some (written rest)

/-- So many digits at the front, up to a limit, and what follows. -/
def fixed? (n low high : Nat) (t : Text) : Option (Nat × Text) :=
  let ds := t.take n
  if ds.length = n && ds.all Char.isDigit then
    let v := valueOf 10 ds
    if low ≤ v && v ≤ high then some (v, t.drop n) else none
  else none

def daysInMonth (year month : Nat) : Nat :=
  if month = 2 then if year % 4 = 0 && (year % 100 ≠ 0 || year % 400 = 0) then 29 else 28
  else if month = 4 || month = 6 || month = 9 || month = 11 then 30 else 31

/-- The text behind a date. -/
def afterDate? (t : Text) : Option Text := do
  let (year, r) ← fixed? 4 0 9999 t
  let r ← Text.dropStart? "-" r
  let (month, r) ← fixed? 2 1 12 r
  let r ← Text.dropStart? "-" r
  let (_, r) ← fixed? 2 1 (daysInMonth year month) r
  return r

/-- The text behind a time of day. -/
def afterTime? (t : Text) : Option Text := do
  let (_, r) ← fixed? 2 0 23 t
  let r ← Text.dropStart? ":" r
  let (_, r) ← fixed? 2 0 59 r
  let r ← Text.dropStart? ":" r
  let (_, r) ← fixed? 2 0 60 r
  match r with
  | '.' :: c :: s => if c.isDigit then some (s.dropWhile Char.isDigit) else some r
  | r => some r

/-- The text behind the offset of a time, where there is one. -/
def afterOffset (t : Text) : Text :=
  let numeric (r : Text) : Option Text := do
    let (_, r) ← fixed? 2 0 23 r
    let r ← Text.dropStart? ":" r
    let (_, r) ← fixed? 2 0 59 r
    return r
  match t with
  | 'Z' :: r | 'z' :: r => r
  | '+' :: r | '-' :: r => (numeric r).getD t
  | t => t

/-- A date, a time of day, or both. -/
def dateTime? (t : Text) : Option (Value × Text) :=
  let written (rest : Text) : Value × Text := (.dateTime (t.take (t.length - rest.length)), rest)
  match afterDate? t with
  | none => (afterTime? t).map written
  | some r =>
    match r with
    | c :: s =>
      if c = 'T' || c = 't' || c = ' ' then
        match afterTime? s with
        | some s => some (written (afterOffset s))
        | none => some (written r)
      else some (written r)
    | [] => some (written r)

/-- A number, a date or a time. -/
def number? (t : Text) : Option (Value × Text) := dateTime? t <|> float? t <|> integer? t

end SchemaDrift.Toml
