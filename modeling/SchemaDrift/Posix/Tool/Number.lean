import SchemaDrift.Posix.Tool.Format
import SchemaDrift.Posix.Tool.Lines
import SchemaDrift.Posix.Text.Expression

namespace SchemaDrift.Tool

/-- A decimal number as it is written: its digits without the point, and how many stand behind the point. -/
structure Figure where
  digits : Int
  places : Nat
  deriving DecidableEq, Repr

def figure? (t : Text) : Option Figure :=
  let (isNegative, r) : Bool × Text := match t with
    | '-' :: r => (true, r)
    | '+' :: r => (false, r)
    | r => (false, r)
  let whole := r.takeWhile Char.isDigit
  let (further, rest) : Text × Text := match r.drop whole.length with
    | '.' :: s => (s.takeWhile Char.isDigit, s.dropWhile Char.isDigit)
    | s => ([], s)
  if (whole = [] ∧ further = []) ∨ rest ≠ [] then none
  else
    let n : Nat := (whole ++ further).foldl (fun n c => 10 * n + (c.toNat - 48)) 0
    some ⟨if isNegative then -n else n, further.length⟩

/-- The digits of a number that has so many behind the point. -/
def Figure.scaled (x : Figure) (places : Nat) : Int := x.digits * 10 ^ (places - x.places)

/-- The writing of a number with so many digits behind the point, filled up with zeros. -/
def figureText (width places : Nat) (n : Int) : Text :=
  let sign : Text := if n < 0 then ['-'] else []
  let t := Fraction.pointed places n.natAbs
  sign ++ List.replicate (width - sign.length - t.length) '0' ++ t

/-- The numbers from one to another in steps, at most `fuel` of them. -/
def countUp (fuel : Nat) (n step last : Int) : List Int :=
  match fuel with
  | 0 => []
  | fuel + 1 => if (0 < step ∧ last < n) ∨ (step < 0 ∧ n < last) then [] else n :: countUp fuel (n + step) step last

/-- How many numbers are written at most. -/
def countLimit : Nat := 100000

/-- Writes numbers in steps, one on each line. -/
def seq (called : Text) (arguments : List Text) : Effect :=
  let isNumber (a : Text) : Bool := match a with
    | '-' :: c :: _ => c.isDigit || c = '.'
    | _ => false
  let front := (arguments.takeWhile fun a => !isNumber a && a.head? = some '-')
  let valued := front.getLast?.any fun (a : Text) => a = "-s" || a = "-f" || a = "--separator" || a = "--format"
  let front := arguments.take (front.length + if valued then 1 else 0)
  let operands := arguments.drop front.length
  let form : OptionForm :=
    { flags := ['w'], valued := "fs".toList, anywhere := false
      long := [("equal-width".toList, 'w'), ("separator".toList, 's'), ("format".toList, 'f')] }
  withOptions called form front fun o =>
    let operands := o.operands ++ operands
    match operands with
    | [] => misuse called "missing operand"
    | _ :: _ :: _ :: d :: _ => misuse called ("extra operand " ++ quoted d)
    | ts =>
      match ts.find? fun t => (figure? t).isNone with
      | some t => misuse called ("invalid floating point argument: " ++ quoted t)
      | none =>
        let xs := ts.filterMap figure?
        let one : Figure := ⟨1, 0⟩
        let (first, step, last) : Figure × Figure × Figure := match xs with
          | [a, s, b] => (a, s, b)
          | [a, b] => (a, one, b)
          | [b] => (one, one, b)
          | _ => (one, one, one)
        if step.digits = 0 then misuse called ("invalid Zero increment value: " ++ quoted (ts.getD 1 []))
        else
          let shown := max first.places step.places
          let places := max shown last.places
          let ns := countUp countLimit (first.scaled places) (step.scaled places) (last.scaled places)
          let cut (n : Int) : Int := n.tdiv (10 ^ (places - shown) : Nat)
          let plain (n : Int) : Text := figureText 0 shown (cut n)
          let width := if o.has 'w' then
              ([first.scaled places, last.scaled places].map fun n => (plain n).length).foldl max 0
            else 0
          let written (n : Int) : Text := match o.value? 'f' with
            | some format =>
              ((printf none [] [format, plain n]).writes.filter (·.1 = 1)).flatMap fun (_, bs) => Bytes.toText bs
            | none => figureText width shown (cut n)
          let separator := Bytes.ofChars ((o.value? 's').getD ['\n'])
          if ns = [] then {}
          else .output (Bytes.ofText (List.intercalate separator (ns.map written) ++ ['\n']))

/-- Why an expression on the command line has no value. -/
inductive TermFault where
  | missing (behind : Text)
  | unexpected (argument : Text)
  | unclosed (behind : Text)
  | notWhole
  | divisionByZero
  deriving DecidableEq, Repr

def TermFault.message : TermFault → Text
  | .missing a => "syntax error: missing argument after " ++ quoted a
  | .unexpected a => "syntax error: unexpected argument " ++ quoted a
  | .unclosed a => "syntax error: expecting ')' after " ++ quoted a
  | .notWhole => "non-integer argument"
  | .divisionByZero => "division by zero"

abbrev TermRead : Type := Except TermFault (Text × List Text)

/-- A whole number, which may have a minus sign. -/
def whole? (t : Text) : Option Int :=
  let ds := if t.head? = some '-' then t.tail else t
  if ds = [] ∨ !ds.all Char.isDigit then none
  else
    let n : Nat := ds.foldl (fun n c => 10 * n + (c.toNat - 48)) 0
    some (if t.head? = some '-' then -n else n)

def isNothing (t : Text) : Bool := t = [] || whole? t = some 0

def wholeText (n : Int) : Text := figureText 0 0 n

/-- What a pattern covers at the front of a text: its first group if it has one, or else how much it covers. -/
def covered (t pattern : Text) : Text :=
  match Expression.read .basic pattern with
  | .error _ => ['0']
  | .ok e =>
    let hasGroup := Text.hasText "\\(" pattern
    match Expression.hitAt? {} e ⟨0, none, t⟩ with
    | none => if hasGroup then [] else ['0']
    | some h => if hasGroup then (h.groups.lookup 1).getD [] else Text.ofNat h.stop

/-- How tightly an operator of an expression binds, the loosest first. -/
def termBonds : List (List Text) :=
  [["|"], ["&"], ["<", "<=", "=", "==", "!=", ">=", ">"], ["+", "-"], ["*", "/", "%"], [":"]].map (·.map String.toList)

def applyTerm (operator a b : Text) : Except TermFault Text := do
  let numbers (f : Int → Int → Except TermFault Int) : Except TermFault Text :=
    match whole? a, whole? b with
    | some m, some n => (f m n).map wholeText
    | _, _ => .error .notWhole
  let truth (holds : Ordering → Bool) : Text :=
    let o := match whole? a, whole? b with
      | some m, some n => Ord.compare m n
      | _, _ => if a < b then .lt else if b < a then .gt else .eq
    if holds o then ['1'] else ['0']
  match operator with
  | ['|'] => return if !isNothing a then a else if !isNothing b then b else ['0']
  | ['&'] => return if isNothing a ∨ isNothing b then ['0'] else a
  | ['<'] => return truth (· = .lt)
  | ['<', '='] => return truth (· ≠ .gt)
  | ['='] | ['=', '='] => return truth (· = .eq)
  | ['!', '='] => return truth (· ≠ .eq)
  | ['>', '='] => return truth (· ≠ .lt)
  | ['>'] => return truth (· = .gt)
  | ['+'] => numbers fun m n => .ok (m + n)
  | ['-'] => numbers fun m n => .ok (m - n)
  | ['*'] => numbers fun m n => .ok (m * n)
  | ['/'] => numbers fun m n => if n = 0 then .error .divisionByZero else .ok (m.tdiv n)
  | ['%'] => numbers fun m n => if n = 0 then .error .divisionByZero else .ok (m.tmod n)
  | _ => return covered a b

mutual

/-- The value of operations that bind at least so tightly; `last` is the argument in front. -/
def term (fuel bond : Nat) (last : Text) (ws : List Text) : TermRead :=
  match fuel with
  | 0 => .error (.missing last)
  | fuel + 1 =>
    if termBonds.length ≤ bond then atom fuel last ws
    else do
      let (a, rest) ← term fuel (bond + 1) last ws
      operations fuel bond a rest

/-- Goes on behind a first operand. -/
def operations (fuel bond : Nat) (a : Text) (ws : List Text) : TermRead :=
  match fuel with
  | 0 => .ok (a, ws)
  | fuel + 1 =>
    match ws with
    | [] => .ok (a, [])
    | o :: rest =>
      if (termBonds.getD bond []).contains o then do
        let (b, rest) ← term fuel (bond + 1) o rest
        operations fuel bond (← applyTerm o a b) rest
      else .ok (a, o :: rest)

/-- An argument that stands for itself, a term in parentheses, or a function of arguments. -/
def atom (fuel : Nat) (last : Text) (ws : List Text) : TermRead :=
  match fuel with
  | 0 => .error (.missing last)
  | fuel + 1 =>
    match ws with
    | [] => .error (.missing last)
    | w :: rest => do
      if w = "(" then
        let (a, rest) ← term fuel 0 w rest
        match rest with
        | [] => throw (.unclosed ((ws.getLast?).getD []))
        | c :: rest => if c = ")" then return (a, rest) else throw (.unclosed ((ws.take (ws.length - rest.length - 1)).getLastD []))
      else if w = ")" then throw (.unexpected w)
      else if w = "+" then
        match rest with
        | [] => throw (.missing w)
        | a :: rest => return (a, rest)
      else if w = "length" then
        let (a, rest) ← atom fuel w rest
        return (Text.ofNat (Utf8.encode a).length, rest)
      else if w = "match" then
        let (a, rest) ← atom fuel w rest
        let (b, rest) ← atom fuel a rest
        return (covered a b, rest)
      else if w = "index" then
        let (a, rest) ← atom fuel w rest
        let (b, rest) ← atom fuel a rest
        return (Text.ofNat ((a.findIdx? b.contains).elim 0 (· + 1)), rest)
      else if w = "substr" then
        let (a, rest) ← atom fuel w rest
        let (b, rest) ← atom fuel a rest
        let (c, rest) ← atom fuel b rest
        let start := ((whole? b).getD 0)
        let size := ((whole? c).getD 0)
        return (if start < 1 ∨ size < 1 then [] else (a.drop (start.toNat - 1)).take size.toNat, rest)
      else return (w, rest)

end

/-- Works an expression out whose operands and operators are arguments. -/
def expr (called : Text) (arguments : List Text) : Effect :=
  let arguments := if arguments.head? = some ['-', '-'] then arguments.tail else arguments
  if arguments = [] then misuse called "missing operand" 2
  else
    let fault (f : TermFault) : Effect := .complaint 2 (called ++ ": " ++ f.message)
    match term (16 * arguments.length + 16) 0 [] arguments with
    | .error f => fault f
    | .ok (_, w :: _) => fault (.unexpected w)
    | .ok (t, []) => { Effect.line t with status := if isNothing t then 1 else 0 }

/-- Waits; what is seen of it is what it says of times that are none. -/
def sleep (called : Text) (arguments : List Text) : Effect :=
  withOptions called {} arguments fun o =>
    let isTime (t : Text) : Bool :=
      match Fraction.read? t with
      | some (x, rest) => !x.negative && (rest = [] || ['s', 'm', 'h', 'd'].any (rest = [·]))
      | none => false
    if o.operands = [] then misuse called "missing operand"
    else
      match o.operands.filter (!isTime ·) with
      | [] => {}
      | bad =>
        let lines := bad.map fun (t : Text) => called ++ ": invalid time interval " ++ quoted t ++ "\n"
        .complaint 1 (lines.flatten ++ "Try '" ++ called ++ " --help' for more information.")

/-- Writes a line over and over again, as far as anything reads it. -/
def yes (called : Text) (arguments : List Text) : Effect :=
  withOptions called {} arguments fun o =>
    let line : Text := (if o.operands = [] then ['y'] else List.intercalate " " o.operands) ++ ['\n']
    .output (Utf8.encode (List.replicate 2000 line).flatten)

/-- The prime factors of a number, from one of them on. -/
def factorsFrom (fuel : Nat) (d n : Nat) : List Nat :=
  match fuel with
  | 0 => []
  | fuel + 1 =>
    if n ≤ 1 then []
    else if n < d * d then [n]
    else if n % d = 0 then d :: factorsFrom fuel d (n / d)
    else factorsFrom fuel (d + 1) n

/-- Writes the prime factors of numbers. -/
def factor (around : Surroundings) (called : Text) (arguments : List Text) : Effect :=
  withOptions called {} arguments fun o =>
    let words := if o.operands = [] then wordsOf (Bytes.toText around.input) else o.operands
    let one (w : Text) : Effect :=
      match natural? (if w.head? = some '+' then w.drop 1 else w) with
      | some n => .line (Text.ofNat n ++ ':' :: (factorsFrom 100000 2 n).flatMap fun p => ' ' :: Text.ofNat p)
      | none => .complaint 1 (called ++ ": " ++ quoted w ++ " is not a valid positive integer")
    { words.foldl (fun e w => e.andThen (one w)) ({} : Effect) with rest := usedInput o.operands }

end SchemaDrift.Tool
