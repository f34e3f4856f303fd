import SchemaDrift.Text.Basic

namespace SchemaDrift.Text

/-- A blank is a character with the property `White_Space`. -/
def isBlank (c : Char) : Bool :=
  let n := c.toNat
  (0x09 ≤ n && n ≤ 0x0D) || n == 0x20 || n == 0x85 || n == 0xA0 || n == 0x1680 ||
    (0x2000 ≤ n && n ≤ 0x200A) || n == 0x2028 || n == 0x2029 || n == 0x202F || n == 0x205F ||
    n == 0x3000

/-- A text without the blanks it starts with. -/
def trimStart (t : Text) : Text := t.dropWhile isBlank

/-- A text without the characters at both ends that `p` holds of. -/
def trimBoth (p : Char → Bool) (t : Text) : Text :=
  ((t.dropWhile p).reverse.dropWhile p).reverse

/-- A text without the blanks at its ends. -/
def trim (t : Text) : Text := t.trimBoth isBlank

/-- The longest pieces of a text that are free of blanks. -/
def words (t : Text) : List Text := (t.splitOnP isBlank).filter (· ≠ [])

/-- The lines of a text: a line ends at a line feed, which a carriage return may precede,
and the last line needs no end. -/
def lines (t : Text) : List Text :=
  let pieces := t.splitOn '\n'
  pieces.dropLast.map endingReturnDropped ++ (pieces.getLast?.toList.filter (· ≠ []))
where
  endingReturnDropped (line : Text) : Text :=
    if line.getLast? = some '\r' then line.dropLast else line

end SchemaDrift.Text
