import SchemaDrift.Text.Basic

namespace SchemaDrift

/-- Where a byte sequence stops being UTF-8: how many bytes in front of the fault are, and how many
bytes the fault spans unless the sequence ends inside a character. -/
structure Utf8Fault where
  validUpTo : Nat
  span : Option Nat
  deriving DecidableEq, Repr

def Utf8Fault.message (f : Utf8Fault) : Text :=
  match f.span with
  | some n => "invalid utf-8 sequence of " ++ Text.ofNat n ++ " bytes from index " ++ Text.ofNat f.validUpTo
  | none => "incomplete utf-8 byte sequence from index " ++ Text.ofNat f.validUpTo

namespace Utf8

/-- What stands at the front of a byte sequence: a character of `size` bytes, `size` bytes that no
text starts with, or a character that the end cuts short. -/
inductive Front where
  | char (c : Char) (size : Nat)
  | fault (size : Nat)
  | cut
  deriving DecidableEq, Repr

/-- A byte that continues a character. -/
def isTail (b : UInt8) : Bool := 0x80 ≤ b && b ≤ 0xBF

/-- The six bits a continuing byte carries. -/
def tailBits (b : UInt8) : Nat := b.toNat % 64

/-- Which second bytes may follow the first byte of a long character: those that neither shorten it
nor leave the range of characters. -/
def mayFollow (first second : UInt8) : Bool :=
  if first = 0xE0 then 0xA0 ≤ second && second ≤ 0xBF
  else if first = 0xED then 0x80 ≤ second && second ≤ 0x9F
  else if first = 0xF0 then 0x90 ≤ second && second ≤ 0xBF
  else if first = 0xF4 then 0x80 ≤ second && second ≤ 0x8F
  else isTail second

/-- The front of the sequence `a :: rest`. -/
def front (a : UInt8) (rest : List UInt8) : Front :=
  if a < 0x80 then .char (Char.ofNat a.toNat) 1
  else if a < 0xC2 then .fault 1
  else if a < 0xE0 then
    match rest with
    | [] => .cut
    | b :: _ => if isTail b then .char (Char.ofNat (a.toNat % 32 * 64 + tailBits b)) 2 else .fault 1
  else if a < 0xF0 then
    match rest with
    | [] => .cut
    | b :: rest =>
      if mayFollow a b then
        match rest with
        | [] => .cut
        | c :: _ =>
          if isTail c then .char (Char.ofNat ((a.toNat % 16 * 64 + tailBits b) * 64 + tailBits c)) 3
          else .fault 2
      else .fault 1
  else if a < 0xF5 then
    match rest with
    | [] => .cut
    | b :: rest =>
      if mayFollow a b then
        match rest with
        | [] => .cut
        | c :: rest =>
          if isTail c then
            match rest with
            | [] => .cut
            | d :: _ =>
              if isTail d then
                .char (Char.ofNat (((a.toNat % 8 * 64 + tailBits b) * 64 + tailBits c) * 64 + tailBits d)) 4
              else .fault 3
          else .fault 2
      else .fault 1
  else .fault 1

theorem length_drop_lt_length_cons (a : UInt8) (rest : List UInt8) (n : Nat) :
    (rest.drop n).length < (a :: rest).length := by
  rw [List.length_drop, List.length_cons]
  omega

/-- Reads the rest of a sequence whose first `count` bytes are the text `done`, last character first. -/
def decodeOnto (done : Text) (count : Nat) : List UInt8 → Except Utf8Fault Text
  | [] => .ok done.reverse
  | a :: rest =>
    match front a rest with
    | .char c size => decodeOnto (c :: done) (count + size) (rest.drop (size - 1))
    | .fault size => .error ⟨count, some size⟩
    | .cut => .error ⟨count, none⟩
termination_by bytes => bytes.length
decreasing_by exact length_drop_lt_length_cons ..

/-- The text a byte sequence encodes, or its first fault. -/
def decode (bytes : List UInt8) : Except Utf8Fault Text := decodeOnto [] 0 bytes

/-- Reads on, with one replacement character for each fault. -/
def decodeLossyOnto (done : Text) : List UInt8 → Text
  | [] => done.reverse
  | a :: rest =>
    match front a rest with
    | .char c size => decodeLossyOnto (c :: done) (rest.drop (size - 1))
    | .fault size => decodeLossyOnto ('\uFFFD' :: done) (rest.drop (size - 1))
    | .cut => ('\uFFFD' :: done).reverse
termination_by bytes => bytes.length
decreasing_by all_goals exact length_drop_lt_length_cons ..

/-- The text a byte sequence encodes, with a replacement character for each fault. -/
def decodeLossy (bytes : List UInt8) : Text := decodeLossyOnto [] bytes

/-- The bytes of a character. -/
def encodeChar (c : Char) : List UInt8 :=
  let n := c.toNat
  let tail (k : Nat) : UInt8 := UInt8.ofNat (0x80 + n / 64 ^ k % 64)
  if n < 0x80 then [UInt8.ofNat n]
  else if n < 0x800 then [UInt8.ofNat (0xC0 + n / 64), tail 0]
  else if n < 0x10000 then [UInt8.ofNat (0xE0 + n / 64 ^ 2), tail 1, tail 0]
  else [UInt8.ofNat (0xF0 + n / 64 ^ 3), tail 2, tail 1, tail 0]

/-- The bytes of a text. -/
def encode (t : Text) : List UInt8 := t.flatMap encodeChar

end Utf8
end SchemaDrift
