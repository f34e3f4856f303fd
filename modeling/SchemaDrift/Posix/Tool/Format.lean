import SchemaDrift.Posix.Shell.Dialect
import SchemaDrift.Posix.Tool.Basic
import SchemaDrift.Posix.Text.Escape
import SchemaDrift.Posix.Text.Fraction

namespace SchemaDrift.Tool

/-- Who carries a command out: a shell itself, or a program of the system if it is none. -/
abbrev Speaker : Type := Option Shell.Dialect

/-- The escapes that `echo` knows. -/
def echoForm : Speaker → EscapeForm
  | some .dash => { octal := true, zeroOctal := true, stops := true }
  | some .bash => { zeroOctal := true, hexadecimal := true, unicode := true, capital := true, stops := true }
  | none => { octal := true, zeroOctal := true, hexadecimal := true, unicode := true, stops := true }

/-- The escapes in an argument that a format takes with `%b`. -/
def argumentForm : Speaker → EscapeForm
  | some .dash => echoForm (some .dash)
  | some .bash =>
    { octal := true, zeroOctal := true, hexadecimal := true, unicode := true, capital := true, stops := true, plain := ['"', '\'', '?'] }
  | none => { octal := true, zeroOctal := true, hexadecimal := true, unicode := true, stops := true, plain := ['"'] }

/-- The escapes in a format itself. -/
def formatForm : Speaker → EscapeForm
  | some .dash => { octal := true }
  | some .bash => { octal := true, hexadecimal := true, unicode := true, capital := true, plain := ['"', '\'', '?'] }
  | none => { octal := true, hexadecimal := true, unicode := true, stops := true, plain := ['"'] }

/-- Writes its arguments on one line. The plain shell looks for escapes in them and knows `-n` as the first
one, which leaves the line open; the others look for escapes only where `-e` asks for it. -/
def echo (speaker : Speaker) (arguments : List Text) : Effect :=
  let write (flags : Text) (escapes : Bool) (arguments : List Text) : Effect :=
    let line : Text := List.intercalate " " arguments
    let ending := if flags.contains 'n' then [] else [10]
    if escapes then
      let (bs, stopped) := Escape.decode (echoForm speaker) (line.length + 1) line
      .output (bs ++ if stopped then [] else ending)
    else .output (Utf8.encode line ++ ending)
  match speaker with
  | some .dash =>
    if arguments.head? = some "-n".toList then write ['n'] true arguments.tail else write [] true arguments
  | _ =>
    let isOption (a : Text) : Bool :=
      match a with
      | '-' :: flags => flags ≠ [] && flags.all ['n', 'e', 'E'].contains
      | _ => false
    let flags := (arguments.takeWhile isOption).flatten
    let last := flags.reverse.find? fun c => c = 'e' || c = 'E'
    write flags (last = some 'e') (arguments.dropWhile isOption)

/-- A size in a format: a number of its own, or the next argument. -/
inductive FormatSize where
  | fixed (n : Nat)
  | argument
  deriving DecidableEq, Repr

/-- A piece of a format. -/
inductive Piece where
  | literal (bytes : List UInt8)
  /-- The place of an argument. -/
  | conversion (flags : Text) (width precision : Option FormatSize) (letter : Char)
  /-- A conversion that there is none of. -/
  | unknown (written : Text)
  /-- An escape that ends the output. -/
  | stop
  deriving DecidableEq, Repr

/-- The size at the front of a format. -/
def formatSize? (t : Text) : Option FormatSize × Text :=
  match t with
  | '*' :: r => (some .argument, r)
  | t =>
    let ds := t.takeWhile Char.isDigit
    if ds = [] then (none, t) else (some (.fixed (ds.foldl (fun n c => 10 * n + (c.toNat - 48)) 0)), t.drop ds.length)

def knownLetters (speaker : Speaker) : Text :=
  "diouxXcsbfFeEgG".toList ++ if speaker = some .dash then [] else ['q']

/-- The pieces of a format; `fuel` exceeds its length. -/
def pieces (speaker : Speaker) (fuel : Nat) (t : Text) : List Piece :=
  match fuel with
  | 0 => []
  | fuel + 1 =>
    match t with
    | [] => []
    | '%' :: '%' :: r => .literal [37] :: pieces speaker fuel r
    | '%' :: r =>
      let flags := r.takeWhile ['-', '+', ' ', '#', '0'].contains
      let (width, s) := formatSize? (r.drop flags.length)
      let (precision, s) : Option FormatSize × Text := match s with
        | '.' :: s =>
          let (p, s) := formatSize? s
          (some (p.getD (.fixed 0)), s)
        | s => (none, s)
      let s := if speaker = some .dash then s else s.dropWhile ['h', 'l', 'L', 'j', 'z', 't'].contains
      let s := if speaker ≠ some .dash ∧ s = [] then r.drop flags.length else s
      let written := '%' :: r.take (r.length - s.length)
      match s with
      | c :: rest =>
        if (knownLetters speaker).contains c ∧ !(speaker = none ∧ c = 'b' ∧ written.length > 1) then
          .conversion flags width precision c :: pieces speaker fuel rest
        else [.unknown (written ++ [c])]
      | [] => [.unknown written]
    | '\\' :: c :: r =>
      match Escape.front (formatForm speaker) c r with
      | some (bs, r) => .literal bs :: pieces speaker fuel r
      | none => [.stop]
    | c :: r => .literal (Utf8.encodeChar c) :: pieces speaker fuel r

/-- A whole number as programs read it: in base sixteen or eight if it starts like that, or the code of a
character behind a quote; and what is left of the text. -/
def readWhole (t : Text) : Int × Text :=
  match t with
  | '\'' :: r | '"' :: r => (((Utf8.encode (r.take 1)).headD 0).toNat, [])
  | t =>
    let s := t.dropWhile fun c => c = ' ' || ('\t' ≤ c && c ≤ '\r')
    let (isNegative, s) : Bool × Text := match s with
      | '-' :: r => (true, r)
      | '+' :: r => (false, r)
      | s => (false, s)
    let (base, s) : Nat × Text := match s with
      | '0' :: x :: c :: r =>
        if (x = 'x' ∨ x = 'X') ∧ (Escape.hexValue? c).isSome then (16, c :: r) else (8, '0' :: x :: c :: r)
      | '0' :: r => (8, '0' :: r)
      | s => (10, s)
    let isDigit (c : Char) : Bool := (Escape.hexValue? c).any (· < base)
    let ds := s.takeWhile isDigit
    if ds = [] then (0, t)
    else
      let n : Int := (ds.foldl (fun n c => base * n + (Escape.hexValue? c).getD 0) 0 : Nat)
      (if isNegative then -n else n, s.drop ds.length)

/-- What has been printed so far: the bytes, the arguments that are left, the complaints, and whether nothing
more is printed. -/
structure Printed where
  bytes : List UInt8 := []
  arguments : List Text
  complaints : List Text := []
  status : Nat := 0
  stopped : Bool := false

/-- The next argument. -/
def Printed.next (p : Printed) : Text × Printed := (p.arguments.headD [], { p with arguments := p.arguments.tail })

/-- What a number is complained about that an argument does not spell out as a whole. -/
def numberComplaint (speaker : Speaker) (argument rest : Text) : Text :=
  match speaker with
  | some .dash => argument ++ if rest = argument then ": expected numeric value" else ": not completely converted"
  | some .bash =>
    let isOctal := argument.head? = some '0' && argument.all Char.isDigit
    argument ++ if isOctal then ": invalid octal number" else ": invalid number"
  | none => "'" ++ argument ++ if rest = argument then "': expected a numeric value" else "': value not completely converted"

/-- A whole number read from an argument, within the limits of its kind. -/
def Printed.whole (speaker : Speaker) (signed : Bool) (p : Printed) : Int × Printed :=
  let (a, p) := p.next
  let (n, rest) := if a = [] then (0, []) else readWhole a
  let (low, high) : Int × Int := if signed then (-(2 ^ 63), 2 ^ 63 - 1) else (-(2 ^ 63), 2 ^ 64 - 1)
  let isOut := n < low || high < n
  let n := if n < low then low else if high < n then high else n
  let outOfRange : Text := match speaker with
    | some .dash => a ++ ": Numerical result out of range"
    | some .bash => "warning: " ++ a ++ ": Numerical result out of range"
    | none => "'" ++ a ++ "': Numerical result out of range"
  if rest ≠ [] then (n, { p with complaints := p.complaints ++ [numberComplaint speaker a rest], status := 1 })
  else if isOut then
    (n, { p with complaints := p.complaints ++ [outOfRange], status := if speaker = some .bash then p.status else 1 })
  else (n, p)

/-- Bytes filled up to a width. -/
def widened (flags : Text) (width : Nat) (bytes : List UInt8) : List UInt8 :=
  let gap := List.replicate (width - bytes.length) 32
  if flags.contains '-' then bytes ++ gap else gap ++ bytes

/-- Digits behind their sign, filled up to a width with blanks, or with zeros between sign and digits. -/
def widenedNumber (flags : Text) (width : Nat) (zeros : Bool) (sign digits : Text) : List UInt8 :=
  let gap := width - sign.length - digits.length
  if zeros ∧ flags.contains '0' ∧ !flags.contains '-' then Utf8.encode (sign ++ List.replicate gap '0' ++ digits)
  else widened flags width (Utf8.encode (sign ++ digits))

def signText (flags : Text) (isNegative : Bool) : Text :=
  if isNegative then ['-'] else if flags.contains '+' then ['+'] else if flags.contains ' ' then [' '] else []

/-- A text in a form that a shell reads as one word again. -/
def requoted (speaker : Speaker) (t : Text) : Text :=
  let isPlain (c : Char) : Bool := c.isAlphanum || ['_', '-', '.', '/', ':', '=', '@', '%', '+', ','].contains c
  if t = [] then "''"
  else if t.all isPlain then t
  else
    match speaker with
    | some _ => if t.any fun c => c.toNat < 32 then
        "$'" ++ t.flatMap (fun c => if c = '\n' then "\\n".toList else if c = '\t' then "\\t".toList else [c]) ++ "'"
      else t.flatMap fun c => if isPlain c || 128 ≤ c.toNat then [c] else ['\\', c]
    | none => "'" ++ t.flatMap (fun c => if c = '\'' then "'\\''".toList else [c]) ++ "'"

/-- Prints one piece of a format. -/
def Printed.piece (speaker : Speaker) (p : Printed) : Piece → Printed
  | .literal bs => { p with bytes := p.bytes ++ bs }
  | .stop => { p with stopped := true }
  | .unknown written =>
    let message : Text := match speaker with
      | some .dash =>
        if written = "%" ∨ (written.getLast?.any fun c => c.isDigit || c = '.') then "missing format character"
        else written ++ ": invalid directive"
      | some .bash =>
        if written = "%" ∨ (written.getLast?.any Char.isDigit) then "\x60" ++ written ++ "': missing format character"
        else "\x60" ++ written.drop (written.length - 1) ++ "': invalid format character"
      | none => written ++ ": invalid conversion specification"
    { p with complaints := p.complaints ++ [message], status := if speaker = some .dash then 2 else 1, stopped := true }
  | .conversion flags width precision letter =>
    let size (p : Printed) : Option FormatSize → Option Int × Printed
      | none => (none, p)
      | some (.fixed n) => (some (n : Int), p)
      | some .argument =>
        let (n, p) := p.whole speaker true
        (some n, p)
    let (w, p) := size p width
    let (places, p) := size p precision
    let flags := if (w.getD 0) < 0 then '-' :: flags else flags
    let width := (w.getD 0).natAbs
    let places : Option Nat := places.bind fun n => if n < 0 then none else some n.toNat
    let cut (bs : List UInt8) : List UInt8 := match places with
      | some n => bs.take n
      | none => bs
    let add (p : Printed) (bs : List UInt8) : Printed := { p with bytes := p.bytes ++ bs }
    let digitsIn (base : Nat) (n : Nat) : Text :=
      let ds := if places = some 0 ∧ n = 0 then [] else Nat.toDigits base n
      List.replicate (places.getD 0 - ds.length) '0' ++ ds
    if letter = 's' then
      let (a, p) := p.next
      add p (widened flags width (cut (Utf8.encode a)))
    else if letter = 'q' then
      let (a, p) := p.next
      add p (widened flags width (Utf8.encode (requoted speaker a)))
    else if letter = 'c' then
      let (a, p) := p.next
      add p (widened flags width (if a = [] then [0] else (Utf8.encode a).take 1))
    else if letter = 'b' then
      let (a, p) := p.next
      let (bs, stopped) := Escape.decode (argumentForm speaker) (a.length + 1) a
      { add p (widened flags width (cut bs)) with stopped }
    else if letter = 'd' ∨ letter = 'i' then
      let (n, p) := p.whole speaker true
      add p (widenedNumber flags width places.isNone (signText flags (n < 0)) (digitsIn 10 n.natAbs))
    else if "ouxX".toList.contains letter then
      let (n, p) := p.whole speaker false
      let n := (n % 2 ^ 64).toNat
      let base := if letter = 'o' then 8 else if letter = 'u' then 10 else 16
      let ds := digitsIn base n
      let ds := if letter = 'o' ∧ flags.contains '#' ∧ ds.head? ≠ some '0' then '0' :: ds else ds
      let mark : Text := if flags.contains '#' ∧ base = 16 ∧ n ≠ 0 then "0x" else []
      let upper (t : Text) : Text := if letter = 'X' then t.map Char.toUpper else t
      add p (widenedNumber flags width places.isNone (upper mark) (upper ds))
    else
      let (a, p) := p.next
      let blank := a.dropWhile (· = ' ')
      let (x, rest) : Fraction × Text := match a with
        | '\'' :: r | '"' :: r => (⟨false, ((Utf8.encode (r.take 1)).headD 0).toNat, 1⟩, [])
        | _ => (Fraction.read? blank).getD (⟨false, 0, 1⟩, if a = [] then [] else a)
      let p := if rest = [] then p
        else { p with complaints := p.complaints ++ [numberComplaint speaker a rest], status := 1 }
      let x := x.kept (if speaker = some .dash then 53 else 64)
      let n := places.getD 6
      let t := match letter.toLower with
        | 'f' => x.fixed n
        | 'e' => x.scientific n
        | _ => x.general n
      add p (widenedNumber flags width true (signText flags x.negative) (if letter.isUpper then t.map Char.toUpper else t))

/-- Prints the pieces of a format in turn. -/
def Printed.run (speaker : Speaker) (p : Printed) (ps : List Piece) : Printed :=
  ps.foldl (fun p piece => if p.stopped then p else p.piece speaker piece) p

/-- Prints a format as often as there are arguments for it. -/
def Printed.repeat (speaker : Speaker) (ps : List Piece) (fuel : Nat) (p : Printed) : Printed :=
  match fuel with
  | 0 => p
  | fuel + 1 =>
    let q := p.run speaker ps
    if q.stopped ∨ q.arguments = [] ∨ q.arguments.length = p.arguments.length then q else q.repeat speaker ps fuel

/-- Prints arguments in the places of a format; `origin` is what stands in front of complaints. -/
def printf (speaker : Speaker) (origin : Text) (arguments : List Text) : Effect :=
  let arguments := if arguments.head? = some ['-', '-'] then arguments.tail else arguments
  let said (status : Nat) (message : Text) : Effect := .complaint status (origin ++ message)
  match arguments with
  | [] =>
    match speaker with
    | some .dash => said 2 "usage: printf format [arg ...]"
    | some .bash => said 2 "usage: printf [-v var] format [arguments]"
    | none => misuse (origin.take (origin.length - 2)) "missing operand"
  | format :: rest =>
    let ps := pieces speaker (format.length + 1) format
    let p := Printed.repeat speaker ps (rest.length + 1) { arguments := rest }
    let excess : List Text := if speaker = none ∧ p.arguments ≠ [] ∧ !p.stopped then
      ["warning: ignoring excess arguments, starting with '" ++ p.arguments.headD [] ++ "'"] else []
    let complaints := (p.complaints ++ excess).map fun m => (2, Utf8.encode (origin ++ m ++ ['\n']))
    { status := p.status, writes := complaints ++ [(1, p.bytes)] }

end SchemaDrift.Tool
