import SchemaDrift.Text.Utf8

namespace SchemaDrift.Percent

def hexDigit (n : Nat) : Char := if n < 10 then Char.ofNat (48 + n) else Char.ofNat (55 + n)

/-- The value of a hexadecimal digit in either case. -/
def hexValue? (c : Char) : Option Nat :=
  if '0' ≤ c ∧ c ≤ '9' then some (c.toNat - 48)
  else if 'A' ≤ c ∧ c ≤ 'F' then some (c.toNat - 55)
  else if 'a' ≤ c ∧ c ≤ 'f' then some (c.toNat - 87)
  else none

def encodeByte (b : UInt8) : Text := ['%', hexDigit (b.toNat / 16), hexDigit (b.toNat % 16)]

/-- Writes the characters that `escaped` holds of, byte by byte, by their numbers. -/
def encode (escaped : Char → Bool) (t : Text) : Text :=
  t.flatMap fun c => if escaped c then (Utf8.encodeChar c).flatMap encodeByte else [c]

/-- The bytes of a text in which a percent sign and two digits stand for one byte. -/
def decode : Text → List UInt8
  | '%' :: a :: b :: r =>
    match hexValue? a, hexValue? b with
    | some x, some y => UInt8.ofNat (16 * x + y) :: decode r
    | _, _ => Utf8.encodeChar '%' ++ decode (a :: b :: r)
  | c :: r => Utf8.encodeChar c ++ decode r
  | [] => []

/-- A control character, or one outside of ASCII. -/
def isControl (c : Char) : Bool := c.toNat < 0x20 || 0x7E < c.toNat

/-- The characters a path escapes. -/
def isPathEscaped (c : Char) : Bool :=
  isControl c || [' ', '"', '<', '>', '\x60', '#', '?', '\x7b', '\x7d'].contains c

/-- The text a form field stands for: plus signs are spaces, percent signs introduce bytes. -/
def formDecode (t : Text) : Text :=
  Utf8.decodeLossy (decode (t.map fun c => if c = '+' then ' ' else c))

/-- The pairs of a form: fields are parted by ampersands, and a name ends at the first equals sign. -/
def formPairs (t : Text) : List (Text × Text) :=
  ((t.splitOn '&').filter (· ≠ [])).map fun field =>
    (formDecode (field.takeWhile (· ≠ '=')), formDecode ((field.dropWhile (· ≠ '=')).drop 1))

end SchemaDrift.Percent
