import SchemaDrift.Posix.Tool.Lines

namespace SchemaDrift.Tool

/-- In which form bytes are shown: in units of so many, as numbers in a base or as characters. -/
structure ByteForm where
  size : Nat
  base : Nat := 8
  signed : Bool := false
  /-- Bytes that are characters are shown as such. -/
  characters : Bool := false
  /-- The printing characters are repeated at the end of the line. -/
  repeated : Bool := false
  deriving DecidableEq, Repr

namespace ByteForm

/-- How wide a number of a unit may get. -/
def width (f : ByteForm) : Nat :=
  if f.characters then 3
  else
    let widest := (Nat.toDigits f.base (256 ^ f.size - 1)).length
    if f.signed then (Text.ofNat (256 ^ f.size / 2)).length + 1 else widest

def character (b : Char) : Text :=
  match [('\x00', "\\0"), ('\x07', "\\a"), ('\x08', "\\b"), ('\x0c', "\\f"), ('\n', "\\n"), ('\r', "\\r"), ('\t', "\\t"),
    ('\x0b', "\\v")].lookup b with
  | some t => t
  | none =>
    if 32 ≤ b.toNat ∧ b.toNat < 127 then [b]
    else
      let ds := Nat.toDigits 8 b.toNat
      List.replicate (3 - ds.length) '0' ++ ds

/-- A unit of bytes, the lowest one first, as it is shown. -/
def unit (f : ByteForm) (bytes : Text) : Text :=
  let n := bytes.foldr (fun c n => 256 * n + c.toNat) 0
  if f.characters then character (bytes.headD '\x00')
  else if f.signed then
    if 256 ^ f.size / 2 ≤ n then '-' :: Text.ofNat (256 ^ f.size - n) else Text.ofNat n
  else
    let ds := Nat.toDigits f.base n
    if f.base = 10 then ds else List.replicate (f.width - ds.length) '0' ++ ds

/-- The types that letters and sizes ask for. -/
def read? (fuel : Nat) (t : Text) : Except Char (List ByteForm) :=
  match fuel with
  | 0 => .ok []
  | fuel + 1 =>
    match t with
    | [] => .ok []
    | c :: r => do
      let ds := r.takeWhile Char.isDigit
      let s := r.drop ds.length
      let (named, s) : Option Nat × Text := match s with
        | 'C' :: s => (some 1, s)
        | 'S' :: s => (some 2, s)
        | 'I' :: s => (some 4, s)
        | 'L' :: s => (some 8, s)
        | s => (none, s)
      let size := if ds = [] then named.getD 4 else ds.foldl (fun n c => 10 * n + (c.toNat - 48)) 0
      let (repeated, s) : Bool × Text := match s with
        | 'z' :: s => (true, s)
        | s => (false, s)
      let form ← match c with
        | 'c' => pure { size := 1, characters := true, repeated }
        | 'd' => pure { size, base := 10, signed := true, repeated }
        | 'u' => pure { size, base := 10, repeated }
        | 'o' => pure { size, repeated }
        | 'x' => pure { size, base := 16, repeated }
        | c => throw c
      return form :: (← read? fuel s)

/-- The forms that the older options ask for. -/
def ofLetter? (c : Char) : Option ByteForm :=
  [('b', { size := 1 }), ('c', { size := 1, characters := true }), ('d', { size := 2, base := 10 }), ('o', { size := 2 }),
    ('x', { size := 2, base := 16 }), ('s', { size := 2, base := 10, signed := true }),
    ('i', { size := 4, base := 10, signed := true }), ('l', { size := 8, base := 10, signed := true })].lookup c

end ByteForm

/-- A text in parts of one size; the last one may be shorter. -/
def partsOf (size : Nat) (fuel : Nat) (t : Text) : List Text :=
  match fuel with
  | 0 => []
  | fuel + 1 => if t = [] then [] else t.take size :: partsOf size fuel (t.drop size)

/-- Writes bytes as numbers or characters, sixteen on a line. -/
def od (around : Surroundings) (called : Text) (arguments : List Text) : Effect :=
  let form : OptionForm :=
    { flags := "abcdfhiloOsxvX".toList, valued := "AjNtSw".toList
      long := [("address-radix", 'A'), ("skip-bytes", 'j'), ("read-bytes", 'N'), ("format", 't'), ("output-duplicates", 'v')].map
        fun (n, c) => (n.toList, c) }
  withOptions called form arguments fun o =>
    let number (c : Char) : Option Nat := (o.value? c).bind natural?
    let asked := o.given.foldlM (fun (fs : List ByteForm) (c, v) =>
      if c = 't' then (ByteForm.read? (v.length + 1) v).map (fs ++ ·) |>.mapError fun c => (c, v)
      else .ok (fs ++ (ByteForm.ofLetter? c).toList)) []
    match asked with
    | .error (c, v) =>
      .complaint 1 (called ++ ": invalid character '" ++ [c] ++ "' in type string " ++ quoted v)
    | .ok forms =>
      let forms := if forms = [] then [{ size := 2 }] else forms
      let cs := contents around o.operands
      let (t, e) := gathered called cs
      if cs.all (·.bytes.toOption.isNone) then e
      else
      let skipped := (number 'j').getD 0
      let t := (t.drop skipped).take ((number 'N').getD t.length)
      let radix := (o.value? 'A').getD ['o']
      let address (n : Nat) : Text :=
        if radix = "n" then []
        else
          let ds := Nat.toDigits (if radix = "d" then 10 else if radix = "x" then 16 else 8) n
          List.replicate ((if radix = "x" then 6 else 7) - ds.length) '0' ++ ds
      let perUnit (f : ByteForm) : Nat := ((forms.map fun g => (g.width + 1) * (16 / g.size)).foldl max 0) / (16 / f.size)
      let line (bytes : Text) (f : ByteForm) : Text :=
        let full := bytes ++ List.replicate ((f.size - bytes.length % f.size) % f.size) '\x00'
        let units := (partsOf f.size (full.length + 1) full).flatMap fun u => padLeft (perUnit f) (f.unit u)
        let shown : Text := bytes.map fun c => if 32 ≤ c.toNat ∧ c.toNat < 127 then c else '.'
        let missing := List.replicate (perUnit f * (16 / f.size - full.length / f.size)) ' '
        units ++ if f.repeated then missing ++ "  >" ++ shown ++ "<" else []
      let rows := partsOf 16 (t.length + 1) t
      let (_, _, _, out) := rows.foldl (fun ((n, before, starred, out) : Nat × Text × Bool × List Text) row =>
        let next := n + row.length
        if row = before ∧ row.length = 16 ∧ !o.has 'v' then
          (next, row, true, if starred then out else "*\n".toList :: out)
        else
          let lines : Text := ((List.range forms.length).zip forms).flatMap fun (i, f) =>
            (if i = 0 then address n else List.replicate (address n).length ' ') ++ line row f ++ ['\n']
          (next, row, false, lines :: out)) (skipped, [], false, [])
      let ending := address (skipped + t.length)
      let last : Text := if ending = [] then [] else ending ++ ['\n']
      { e.andThen (.output (Bytes.ofText (out.reverse.flatten ++ last))) with rest := usedInput o.operands }

/-- The characters that stand for six bits each. -/
def sixBitChars : Text := "ABCDEFGHIJKLMNOPQRSTUVWXYZabcdefghijklmnopqrstuvwxyz0123456789+/".toList

def encodeSixBits : Text → Text
  | [] => []
  | [a] =>
    let n := a.toNat * 16
    [sixBitChars.getD (n / 64) 'A', sixBitChars.getD (n % 64) 'A', '=', '=']
  | [a, b] =>
    let n := (a.toNat * 256 + b.toNat) * 4
    [sixBitChars.getD (n / 4096) 'A', sixBitChars.getD (n / 64 % 64) 'A', sixBitChars.getD (n % 64) 'A', '=']
  | a :: b :: c :: r =>
    let n := (a.toNat * 256 + b.toNat) * 256 + c.toNat
    sixBitChars.getD (n / 262144) 'A' :: sixBitChars.getD (n / 4096 % 64) 'A' :: sixBitChars.getD (n / 64 % 64) 'A' ::
      sixBitChars.getD (n % 64) 'A' :: encodeSixBits r

/-- The bytes that groups of four characters stand for, and whether all of them make sense. -/
def decodeSixBits : Text → Text × Bool
  | [] => ([], true)
  | a :: b :: c :: d :: r =>
    let value (x : Char) : Option Nat := sixBitChars.findIdx? (· = x)
    let byte (n : Nat) : Char := Char.ofNat (n % 256)
    match value a, value b, value c, value d with
    | some p, some q, some s, some u =>
      let n := ((p * 64 + q) * 64 + s) * 64 + u
      let (t, isGood) := decodeSixBits r
      (byte (n / 65536) :: byte (n / 256) :: byte n :: t, isGood)
    | some p, some q, some s, none =>
      let n := (p * 64 + q) * 64 + s
      ([byte (n / 1024), byte (n / 4)], d = '=' ∧ r = [])
    | some p, some q, none, _ => ([byte ((p * 64 + q) / 16)], c = '=' ∧ d = '=' ∧ r = [])
    | _, _, _, _ => ([], false)
  | _ => ([], false)

/-- Writes bytes in characters that stand for six bits each, or reads these. -/
def base64 (around : Surroundings) (called : Text) (arguments : List Text) : Effect :=
  let form : OptionForm :=
    { flags := "di".toList, valued := ['w'], long := [("decode".toList, 'd'), ("ignore-garbage".toList, 'i'), ("wrap".toList, 'w')] }
  withOptions called form arguments fun o =>
    if o.operands.length > 1 then misuse called ("extra operand " ++ quoted (o.operands.getD 1 []))
    else
      let e := forEach (contents around o.operands) (unread called ·) fun _ t =>
        if o.has 'd' then
          let t := if o.has 'i' then t.filter fun c => sixBitChars.contains c || c = '=' else t.filter (· ≠ '\n')
          let (bytes, isGood) := decodeSixBits t
          let written : Effect := .output (Bytes.ofText bytes)
          if isGood then written else written.andThen (.complaint 1 (called ++ ": invalid input"))
        else
          let width := ((o.value? 'w').bind natural?).getD 76
          let all := encodeSixBits t
          .output (Bytes.ofText (if width = 0 then all else (partsOf width (all.length + 1) all).flatMap (· ++ ['\n'])))
      { e with rest := usedInput o.operands }

/-- Compares two files byte by byte. -/
def cmp (around : Surroundings) (called : Text) (arguments : List Text) : Effect :=
  withOptions called
    { flags := "sbl".toList, valued := "in".toList, long := [("silent".toList, 's'), ("quiet".toList, 's')] } arguments (fun o =>
    match o.operands with
    | [] => misuse called "missing operand after 'cmp'" 2
    | first :: rest =>
      let second := rest.headD ['-']
      match read around first, read around second with
      | .error f, _ => .complaint 2 (called ++ ": " ++ first ++ ": " ++ reason f)
      | _, .error f => .complaint 2 (called ++ ": " ++ second ++ ": " ++ reason f)
      | .ok a, .ok b =>
        if a = b then {}
        else
          let same := ((a.zip b).takeWhile fun (x, y) => x = y).length
          let silent := o.has 's'
          let line := (a.take same).count '\n'
          if same = a.length ∨ same = b.length then
            let shorter := if same = a.length then first else second
            let place : Text := if same = 0 then " which is empty"
              else " after byte " ++ Text.ofNat same ++
                (if (a.take same).getLast? = some '\n' then ", line " ++ Text.ofNat line else ", in line " ++ Text.ofNat (line + 1))
            if silent then { status := 1 } else .complaint 1 (called ++ ": EOF on " ++ shorter ++ place)
          else if silent then { status := 1 }
          else if o.has 'l' then
            let octal (c : Char) : Text := padLeft 3 (Nat.toDigits 8 c.toNat)
            let places := ((List.range a.length).zip (a.zip b)).filter fun (_, x, y) => x ≠ y
            let width := (Text.ofNat (max a.length b.length)).length
            let lines := places.flatMap fun (n, x, y) =>
              padLeft width (Text.ofNat (n + 1)) ++ ' ' :: octal x ++ ' ' :: octal y ++ ['\n']
            { Effect.output (Bytes.ofText lines) with status := 1 }
          else
            { Effect.line (first ++ ' ' :: second ++ " differ: char " ++ Text.ofNat (same + 1) ++ ", line " ++
                Text.ofNat (line + 1)) with status := 1 }) 2

end SchemaDrift.Tool
