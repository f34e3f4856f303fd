import SchemaDrift.Text.Utf8

namespace SchemaDrift.Bytes

/-- The text with one character for each byte. -/
def toText (bytes : List UInt8) : Text := bytes.map fun b => Char.ofNat b.toNat

/-- The bytes of a text whose characters are bytes. -/
def ofText (t : Text) : List UInt8 := t.map fun c => UInt8.ofNat c.toNat

/-- The bytes of a text as a text of bytes. -/
def ofChars (t : Text) : Text := toText (Utf8.encode t)

/-- The lines of a text, each with the line break at its end if it has one. -/
def lines : Text → List Text
  | [] => []
  | c :: r =>
    if c = '\n' then ['\n'] :: lines r
    else
      match lines r with
      | [] => [[c]]
      | l :: ls => (c :: l) :: ls

/-- A line without its line break. -/
def body (line : Text) : Text := if line.getLast? = some '\n' then line.dropLast else line

end SchemaDrift.Bytes
