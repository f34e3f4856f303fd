import SchemaDrift.Text.Utf8

namespace SchemaDrift

/-- Which escapes a text may hold besides those for control characters. -/
structure EscapeForm where
  /-- A number of up to three octal digits. -/
  octal : Bool := false
  /-- A zero and up to three octal digits behind it. -/
  zeroOctal : Bool := false
  /-- An `x` and up to two hexadecimal digits. -/
  hexadecimal : Bool := false
  /-- A capital letter for the escape character. -/
  capital : Bool := false
  /-- A `c` and a character stand for a control character. -/
  control : Bool := false
  /-- A `c` ends the text. -/
  stops : Bool := false
  /-- A `u` and up to four hexadecimal digits, or a capital one and up to eight. -/
  unicode : Bool := false
  /-- What stands for itself behind a backslash. -/
  plain : List Char := []
  deriving DecidableEq, Repr

namespace Escape

def isOctal (c : Char) : Bool := '0' ≤ c && c ≤ '7'

def hexValue? (c : Char) : Option Nat :=
  if c.isDigit then some (c.toNat - 48)
  else if 'a' ≤ c ∧ c ≤ 'f' then some (c.toNat - 87)
  else if 'A' ≤ c ∧ c ≤ 'F' then some (c.toNat - 55)
  else none

/-- The byte that octal digits stand for. -/
def octalByte (digits : Text) : UInt8 :=
  UInt8.ofNat (digits.foldl (fun n c => 8 * n + (c.toNat - 48)) 0)

def hexNumber (digits : Text) : Nat := digits.foldl (fun n c => 16 * n + (hexValue? c).getD 0) 0

/-- The byte that hexadecimal digits stand for. -/
def hexByte (digits : Text) : UInt8 := UInt8.ofNat (hexNumber digits)

/-- The byte that a letter behind a backslash stands for. -/
def controlByte? (c : Char) : Option UInt8 :=
  [('a', 7), ('b', 8), ('e', 27), ('f', 12), ('n', 10), ('r', 13), ('t', 9), ('v', 11), ('\\', 92)].lookup c

/-- The bytes that the text behind a backslash starts with, unless it ends the text there, and the text
behind them. -/
def front (form : EscapeForm) (c : Char) (r : Text) : Option (List UInt8 × Text) :=
  let octals (digits : Text) (r : Text) : Option (List UInt8 × Text) := some ([octalByte digits], r.drop digits.length)
  if c = 'c' ∧ form.stops then none
  else if form.zeroOctal && c = '0' then octals ((r.take 3).takeWhile isOctal) r
  else if form.octal && isOctal c then octals (((c :: r).take 3).takeWhile isOctal) (c :: r)
  else if form.plain.contains c then some (Utf8.encodeChar c, r)
  else if form.capital && c = 'E' then some ([27], r)
  else if let some b := controlByte? c then some ([b], r)
  else
    let digits (most : Nat) : Text := (r.take most).takeWhile fun c => (hexValue? c).isSome
    let most := if c = 'u' then 4 else 8
    if form.hexadecimal ∧ c = 'x' ∧ digits 2 ≠ [] then some ([hexByte (digits 2)], r.drop (digits 2).length)
    else if form.unicode ∧ (c = 'u' ∨ c = 'U') ∧ digits most ≠ [] then
      some (Utf8.encodeChar (Char.ofNat (hexNumber (digits most))), r.drop (digits most).length)
    else if form.control ∧ c = 'c' ∧ r ≠ [] then
      some ((r.take 1).map fun c => UInt8.ofNat (c.toUpper.toNat % 32), r.drop 1)
    else some (Utf8.encode ['\\', c], r)

/-- The bytes of a text with escapes, and whether it has been ended by one; `fuel` exceeds its length. -/
def decode (form : EscapeForm) (fuel : Nat) (t : Text) : List UInt8 × Bool :=
  match fuel with
  | 0 => ([], false)
  | fuel + 1 =>
    match t with
    | [] => ([], false)
    | '\\' :: c :: r =>
      match front form c r with
      | none => ([], true)
      | some (bs, r) =>
        let (rest, stopped) := decode form fuel r
        (bs ++ rest, stopped)
    | c :: r =>
      let (rest, stopped) := decode form fuel r
      (Utf8.encodeChar c ++ rest, stopped)

def bytes (form : EscapeForm) (t : Text) : List UInt8 := (decode form (t.length + 1) t).1

/-- The escapes between the quotes of a text that starts with a dollar sign. -/
def quotedForm : EscapeForm :=
  { octal := true, hexadecimal := true, unicode := true, capital := true, control := true, plain := ['\'', '"', '?'] }

/-- The text up to a closing quote, which no backslash stands in front of, and the text behind it. -/
def cutAtQuote? : Text → Option (Text × Text)
  | [] => none
  | '\'' :: r => some ([], r)
  | '\\' :: c :: r => (cutAtQuote? r).map fun (a, r) => ('\\' :: c :: a, r)
  | c :: r => (cutAtQuote? r).map fun (a, r) => (c :: a, r)

end Escape
end SchemaDrift
