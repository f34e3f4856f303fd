import SchemaDrift.Posix.Tool.Options
import SchemaDrift.Text.Decimal
import SchemaDrift.Posix.Text.Expression

namespace SchemaDrift.Tool

/-- A number without a sign. -/
def natural? (t : Text) : Option Nat :=
  if t.all Char.isDigit then (Decimal.read (2 ^ 64) t).toOption else none

def padLeft (width : Nat) (t : Text) : Text := List.replicate (width - t.length) ' ' ++ t

def catForm : OptionForm :=
  { flags := "AbeEnstTuv".toList
    long := [("show-all", 'A'), ("number-nonblank", 'b'), ("show-ends", 'E'), ("number", 'n'), ("squeeze-blank", 's'),
      ("show-tabs", 'T'), ("show-nonprinting", 'v')].map fun (n, c) => (n.toList, c) }

/-- A byte that is no printing character, in characters that are. -/
def shownByte (tabs : Bool) (c : Char) : Text :=
  let plain (n : Nat) : Text :=
    if n < 32 then ['^', Char.ofNat (n + 64)] else if n = 127 then "^?" else [Char.ofNat n]
  if c = '\n' ∨ (c = '\t' ∧ !tabs) then [c]
  else if c.toNat < 128 then plain c.toNat
  else "M-" ++ plain (c.toNat - 128)

/-- Writes files one behind the other, or what it reads if there are none; a file that cannot be read is
reported and passed over. The lines may be numbered and shown in printing characters. -/
def cat (around : Surroundings) (called : Text) (arguments : List Text) : Effect :=
  withOptions called catForm arguments fun o =>
    let has (cs : Text) : Bool := cs.any o.has
    let isPlain := !has "AbeEnstTv"
    let numbers (line : Text) : Bool := if o.has 'b' then Bytes.body line ≠ [] else o.has 'n'
    let written (line : Text) : Text :=
      let body := Bytes.body line
      let body := if has "Avet" then body.flatMap (shownByte (has "AtT"))
        else if o.has 'T' then body.flatMap fun c => if c = '\t' then ['^', 'I'] else [c] else body
      if line.getLast? = some '\n' then body ++ (if has "AeE" then ['$'] else []) ++ ['\n'] else body
    let step (state : Nat × Bool × Effect) (c : Content) : Nat × Bool × Effect :=
      let (n, blank, e) := state
      let number : Option Nat :=
        if c.path = "-" then around.inputFile
        else
          match around.files.find? c.path with
          | some (.file n _ _) => some n
          | _ => none
      match c.bytes with
      | .error f => (n, blank, e.andThen (unread called c f))
      | .ok t =>
        if t ≠ [] ∧ number.isSome ∧ number = around.outputFile then
          (n, blank, e.andThen (.complaint 1 (called ++ ": " ++ shown c.path ++ ": input file is output file")))
        else if isPlain then (n, blank, e.andThen (.output (Bytes.ofText t)))
        else
          let (n, blank, lines) := (Bytes.lines t).foldl (fun (n, blank, out) line =>
            let isBlank := line = ['\n']
            if o.has 's' ∧ blank ∧ isBlank then (n, true, out)
            else if numbers line then (n + 1, isBlank, (padLeft 6 (Text.ofNat n) ++ '\t' :: written line) :: out)
            else (n, isBlank, written line :: out)) (n, blank, ([] : List Text))
          (n, blank, e.andThen (.output (Bytes.ofText lines.reverse.flatten)))
    let (_, _, e) := (contents around o.operands).foldl step (1, false, {})
    { e with rest := usedInput o.operands }

/-- The parts of a text that a separator ends, each with it. -/
def partsEndedBy (separator : Text) (fuel : Nat) (t : Text) : List Text :=
  match fuel with
  | 0 => []
  | fuel + 1 =>
    match t with
    | [] => []
    | c :: r =>
      if separator.isPrefixOf t then separator :: partsEndedBy separator fuel (t.drop separator.length)
      else
        match partsEndedBy separator fuel r with
        | p :: ps => (c :: p) :: ps
        | [] => [[c]]

/-- Writes the lines of files in the opposite order. -/
def tac (around : Surroundings) (called : Text) (arguments : List Text) : Effect :=
  withOptions called { flags := "br".toList, valued := ['s'], long := [("separator".toList, 's')] } arguments fun o =>
    let separator := Bytes.ofChars ((o.value? 's').getD ['\n'])
    let refused (c : Content) (f : HostFault) : Effect :=
      .complaint 1 (called ++
        if f = .isADirectory then ": " ++ shown c.path ++ ": read error: " ++ reason f
        else ": failed to open " ++ quoted c.path ++ " for reading: " ++ reason f)
    let e := forEach (contents around o.operands) refused fun _ t =>
      .output (Bytes.ofText (partsEndedBy separator (t.length + 1) t).reverse.flatten)
    { e with rest := usedInput o.operands }

/-- Writes the lines of files, each with its characters in the opposite order. -/
def rev (around : Surroundings) (called : Text) (arguments : List Text) : Effect :=
  withOptions called {} arguments fun o =>
    let refused (c : Content) (f : HostFault) : Effect :=
      .complaint 1 (called ++ ": cannot open " ++ c.path ++ ": " ++ reason f)
    let turned (line : Text) : Text := (Bytes.body line).reverse ++ line.drop (Bytes.body line).length
    let e := forEach (contents around o.operands) refused fun _ t =>
      .output (Bytes.ofText ((Bytes.lines t).flatMap turned))
    { e with rest := usedInput o.operands }

/-- How much of a file is meant: so many units from its start, or all but so many, or from its end. -/
structure Amount where
  size : Nat
  /-- A plus sign stands in front of the number. -/
  plus : Bool
  /-- A minus sign stands in front of it. -/
  minus : Bool
  /-- Bytes are counted and not lines. -/
  bytes : Bool
  deriving DecidableEq, Repr

def amount? (bytes : Bool) (t : Text) : Option Amount :=
  let read (t : Text) (plus minus : Bool) : Option Amount :=
    let digits := t.takeWhile Char.isDigit
    let factor : Option Nat := match t.drop digits.length with
      | [] => some 1
      | ['b'] => some 512
      | ['k'] | ['K'] => some 1024
      | ['k', 'B'] => some 1000
      | ['M'] => some (1024 * 1024)
      | _ => none
    if digits = [] then none else do return ⟨(← natural? digits) * (← factor), plus, minus, bytes⟩
  match t with
  | '+' :: r => read r true false
  | '-' :: r => read r false true
  | t => read t false false

/-- The parts of a text in the units of an amount. -/
def Amount.units (a : Amount) (t : Text) : List Text := if a.bytes then t.map fun c => [c] else Bytes.lines t

def headTailForm : OptionForm :=
  { flags := "qvzfF".toList, valued := "cns".toList
    long := [("lines", 'n'), ("bytes", 'c'), ("quiet", 'q'), ("silent", 'q'), ("verbose", 'v')].map
      fun (n, c) => (n.toList, c) }

/-- The older way to give a number, as the first argument, in the newer way. -/
def newerNumber (signs : List Char) (arguments : List Text) : List Text :=
  match arguments with
  | (s :: c :: r) :: rest =>
    let digits := (c :: r).takeWhile Char.isDigit
    let unit := (c :: r).drop digits.length
    if signs.contains s ∧ digits ≠ [] ∧ (unit = [] ∨ unit = "c" ∨ unit = "l") then
      let number : Text := if s = '+' then '+' :: digits else digits
      [if unit = "c" then "-c".toList else "-n".toList, number] ++ rest
    else arguments
  | arguments => arguments

/-- Writes a part of each file, below its name if there are several. -/
def excerpt (around : Surroundings) (called : Text) (o : Options) (part : Text → Text) : Effect :=
  let cs := contents around o.operands
  let named := o.has 'v' || cs.length > 1 && !o.has 'q'
  let name (c : Content) : Text :=
    Bytes.ofChars (if c.path = "-" then "standard input" else c.path)
  let (_, e) := cs.foldl (fun (first, (e : Effect)) c =>
    match c.bytes with
    | .error f => (first, e.andThen (unopened called c f))
    | .ok t =>
      let title : Text :=
        if named then (if first then [] else ['\n']) ++ "==> " ++ name c ++ " <==\n" else []
      (false, e.andThen (.output (Bytes.ofText (title ++ part t))))) (true, {})
  e.errorsFirst

/-- The amount that options ask for. -/
def askedAmount (o : Options) : Except Text Amount :=
  match o.given.reverse.find? fun (c, _) => c = 'n' || c = 'c' with
  | none => .ok ⟨10, false, false, false⟩
  | some (c, v) =>
    match amount? (c = 'c') v with
    | some a => .ok a
    | none =>
      let shown := match v with
        | '-' :: r => r
        | v => v
      .error ("invalid number of " ++ (if c = 'c' then "bytes" else "lines") ++ ": '" ++ shown ++ "'")

/-- Writes the first lines of files. -/
def head (around : Surroundings) (called : Text) (arguments : List Text) : Effect :=
  withOptions called headTailForm (newerNumber ['-'] arguments) fun o =>
    match askedAmount o with
    | .error message => .complaint 1 (called ++ ": " ++ message)
    | .ok a =>
      let part (t : Text) : Text :=
        let units := a.units t
        (units.take (if a.minus then units.length - a.size else a.size)).flatten
      let e := excerpt around called o part
      let input := Bytes.toText around.input
      let rest := if around.readsFile ∧ !a.minus then Bytes.ofText (input.drop (part input).length) else []
      { e with rest := (usedInput o.operands).map fun _ => rest }

/-- Writes the last lines of files, or those from a line on. -/
def tail (around : Surroundings) (called : Text) (arguments : List Text) : Effect :=
  withOptions called headTailForm (newerNumber ['-', '+'] arguments) fun o =>
    match askedAmount o with
    | .error message => .complaint 1 (called ++ ": " ++ message)
    | .ok a =>
      let part (t : Text) : Text :=
        let units := a.units t
        (units.drop (if a.plus then a.size - 1 else units.length - a.size)).flatten
      { excerpt around called o part with rest := usedInput o.operands }

def nlForm : OptionForm :=
  { flags := ['p'], valued := "bdfhilnsvw".toList
    long := [("body-numbering", 'b'), ("section-delimiter", 'd'), ("footer-numbering", 'f'), ("header-numbering", 'h'),
      ("line-increment", 'i'), ("join-blank-lines", 'l'), ("number-format", 'n'), ("no-renumber", 'p'),
      ("number-separator", 's'), ("starting-line-number", 'v'), ("number-width", 'w')].map
        fun (n, c) => (n.toList, c) }

/-- Writes the lines of files behind their numbers; without a wish to the contrary an empty line has none. -/
def nl (around : Surroundings) (called : Text) (arguments : List Text) : Effect :=
  withOptions called nlForm arguments fun o =>
    let number (c : Char) (default : Nat) : Nat := ((o.value? c).bind natural?).getD default
    let style := (o.value? 'b').getD ['t']
    let expression : Option Expression := match style with
      | 'p' :: p => (Expression.read .basic (Bytes.ofChars p)).toOption
      | _ => none
    let width := number 'w' 6
    let separator := Bytes.ofChars ((o.value? 's').getD ['\t'])
    let written (n : Nat) : Text :=
      let digits := Text.ofNat n
      let form := (o.value? 'n').getD "rn".toList
      if form = "ln" then digits ++ List.replicate (width - digits.length) ' '
      else if form = "rz" then List.replicate (width - digits.length) '0' ++ digits
      else padLeft width digits
    let (t, e) := gathered called (contents around o.operands)
    if style.head? ≠ some 'p' ∧ !(["a", "t", "n"].any (style = String.toList ·)) then
      misuse called ("invalid body numbering style: " ++ quoted style)
    else if width = 0 then
      .complaint 1 (called ++ ": invalid line number field width: '0': Numerical result out of range")
    else
    let (_, lines) := (Bytes.lines t).foldl (fun (n, out) line =>
      let body := Bytes.body line
      let counts := style = "a" ∨ (style = "t" ∧ body ≠ []) ∨ expression.any fun e => (Expression.find? {} e body).isSome
      if counts then (n + number 'i' 1, (written n ++ separator ++ body ++ ['\n']) :: out)
      else (n, (List.replicate (width + separator.length) ' ' ++ body ++ ['\n']) :: out))
      (number 'v' 1, ([] : List Text))
    { e.andThen (.output (Bytes.ofText lines.reverse.flatten)) with rest := usedInput o.operands }

def wcForm : OptionForm :=
  { flags := "lwcmL".toList
    long := [("lines", 'l'), ("words", 'w'), ("bytes", 'c'), ("chars", 'm'), ("max-line-length", 'L')].map
      fun (n, c) => (n.toList, c) }

def isBlankByte (c : Char) : Bool := c = ' ' || ('\t' ≤ c && c ≤ '\r')

/-- The words of a text: what its blanks divide. -/
def wordsOf (t : Text) : List Text := (t.splitOnP isBlankByte).filter (· ≠ [])

/-- Counts lines, words and bytes of files, and of all together if there are several. -/
def wc (around : Surroundings) (called : Text) (arguments : List Text) : Effect :=
  withOptions called wcForm arguments fun o =>
    let asked (c : Char) : Bool := o.has c || o.given = [] && ['l', 'w', 'c'].contains c
    let counts (t : Text) : List Nat :=
      [('l', t.count '\n'), ('w', (wordsOf t).length), ('m', t.length), ('c', t.length),
        ('L', (((Bytes.lines t).map fun l => (Bytes.body l).length).foldl max 0))].filterMap
          fun (c, n) => if asked c then some n else none
    let cs := contents around o.operands
    let size := (cs.map fun c => match c.bytes with | .ok t => t.length | .error _ => 0).foldl (· + ·) 0
    let isStream := cs.any fun c =>
      if c.path = "-" then !around.readsFile
      else
        match around.files.find? c.path with
        | some (.device _) | some .directory => true
        | _ => false
    let digits := (Text.ofNat size).length
    let width := if cs.length = 1 ∧ (counts []).length = 1 then 1 else if isStream then max 7 digits else digits
    let line (ns : List Nat) (name : Text) : Text :=
      List.intercalate " " (ns.map fun n => padLeft width (Text.ofNat n)) ++
        (if name = [] then [] else ' ' :: Bytes.ofChars name) ++ ['\n']
    let title (c : Content) : Text := if o.operands = [] then [] else c.path
    let refused (c : Content) (f : HostFault) : Effect :=
      let e := unread called c f
      if f = .isADirectory then e.andThen (.output (Bytes.ofText (line (counts []) (title c)))) else e
    let e := forEach cs refused fun c t => .output (Bytes.ofText (line (counts t) (title c)))
    let all := cs.map fun c => counts (c.bytes.toOption.getD [])
    let total := all.foldl (fun a b => List.zipWith (· + ·) a b) ((counts []).map fun _ => 0)
    let e := if cs.length > 1 then e.andThen (.output (Bytes.ofText (line total "total"))) else e
    { e with rest := usedInput o.operands }

end SchemaDrift.Tool
