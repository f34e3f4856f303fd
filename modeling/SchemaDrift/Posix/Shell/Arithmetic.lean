import SchemaDrift.Posix.Shell.Brace
import SchemaDrift.Posix.Shell.Lexeme
import SchemaDrift.Posix.Text.Escape

namespace SchemaDrift.Shell

/-- An expression over whole numbers. -/
inductive Sum where
  | number (n : Int)
  | named (name : Text) (index : Option Sum)
  | unary (operator : Text) (a : Sum)
  /-- `place` is what stands from the second operand on. -/
  | binary (operator : Text) (a b : Sum) (place : Text)
  | ternary (condition a b : Sum)
  /-- Gives a name the value of an operation on its old one, or simply a value. -/
  | assign (name : Text) (index : Option Sum) (operator : Text) (value : Sum) (place : Text)
  /-- Moves a value by a step; the result is the one before or behind it. -/
  | step (name : Text) (index : Option Sum) (size : Int) (before : Bool)

/-- Why an expression comes to no number; `place` is what stands from the fault on. -/
inductive SumFault where
  | expected (what : Text) (place : Text)
  | divisionByZero (place : Text)
  | negativeExponent (place : Text)
  | badNumber (value : Text)
  | badDigit (number : Text)
  | tooDeep
  deriving DecidableEq, Repr

/-- What the plain shell says about a fault in an expression. -/
def SumFault.plainMessage (expression : Text) : SumFault → Text
  | .expected what _ => "arithmetic expression: expecting " ++ what ++ ": \"" ++ expression ++ "\""
  | .divisionByZero _ => "arithmetic expression: division by zero: \"" ++ expression ++ "\""
  | .badNumber value => "Illegal number: " ++ value
  | .negativeExponent _ | .badDigit _ | .tooDeep =>
    "arithmetic expression: expecting EOF: \"" ++ expression ++ "\""

/-- The last part of an expression that is a number, a name or a sign. -/
def lastToken (t : Text) : Text :=
  let back := t.reverse.dropWhile fun c => c = ' ' || c = '\t' || c = '\n'
  let isWordChar (c : Char) : Bool := c.isAlphanum || c = '_'
  if back.head?.any isWordChar then (back.takeWhile isWordChar).reverse ++ t.reverse.takeWhile (fun c => c = ' ' || c = '\t' || c = '\n')
  else back.take 1

/-- What the other shell says about it. -/
def SumFault.message (expression : Text) (f : SumFault) : Text :=
  let shown := expression.dropWhile fun c => c = ' ' || c = '\t' || c = '\n'
  let at_ (what place : Text) : Text := shown ++ ": " ++ what ++ " (error token is \"" ++ place ++ "\")"
  match f with
  | .expected what place =>
    let place := if place = [] then lastToken shown else place
    if what = "primary" then at_ "syntax error: operand expected" place
    else if what = "EOF" then at_ "syntax error in expression" place
    else at_ ("missing \x60" ++ what.filter (· ≠ '\'') ++ "'") place
  | .divisionByZero place => at_ "division by 0" place
  | .negativeExponent place => at_ "exponent less than 0" place
  | .badNumber value => value
  | .badDigit number => at_ "value too great for base" number
  | .tooDeep => at_ "expression recursion level exceeded" shown

namespace Sum

/-- The operators between two operands, with the strength of their bond. -/
def operators : List (Text × Nat) :=
  [("||", 1), ("&&", 2), ("|", 3), ("^", 4), ("&", 5), ("==", 6), ("!=", 6), ("<=", 7), (">=", 7), ("<", 7),
    (">", 7), ("<<", 8), (">>", 8), ("+", 9), ("-", 9), ("*", 10), ("/", 10), ("%", 10), ("**", 11)]

/-- The signs that expressions are made of, those in front that others start with. -/
def signs (d : Dialect) : List Text :=
  let common : List Text :=
    ["<<=", ">>=", "&&", "||", "<<", ">>", "<=", ">=", "==", "!=", "+=", "-=", "*=", "/=", "%=", "&=", "^=", "|=", "+",
      "-", "*", "/", "%", "&", "^", "|", "<", ">", "=", "!", "~", "?", ":", "(", ")"].map String.toList
  if d = .bash then (["**", "++", "--"].map String.toList) ++ common ++ [[',']] else common

def skip (t : Text) : Text := t.dropWhile fun c => c = ' ' || c = '\t' || c = '\n'

/-- The sign at the front of an expression. -/
def sign? (d : Dialect) (t : Text) : Option Text := (signs d).find? (·.isPrefixOf t)

/-- The value of a digit in a base above ten. -/
def digitValue? (base : Nat) (c : Char) : Option Nat :=
  let v :=
    if c.isDigit then c.toNat - 48
    else if 'a' ≤ c ∧ c ≤ 'z' then c.toNat - 87
    else if 'A' ≤ c ∧ c ≤ 'Z' then if base ≤ 36 then c.toNat - 55 else c.toNat - 29
    else if c = '@' then 62
    else if c = '_' then 63
    else 64
  if v < base then some v else none

def ofDigits? (base : Nat) (digits : Text) : Option Nat :=
  digits.foldlM (fun n c => (digitValue? base c).map (base * n + ·)) 0

/-- The number at the front of an expression and what follows it. -/
def numeral (d : Dialect) (t : Text) : Except SumFault (Int × Text) :=
  match d with
  | .bash =>
    let isPart (c : Char) : Bool := c.isAlphanum || c = '#' || c = '@' || c = '_'
    let (digits, rest) := (t.takeWhile isPart, t.dropWhile isPart)
    let value? : Option Nat :=
      match digits with
      | '0' :: 'x' :: r | '0' :: 'X' :: r => if r = [] then some 0 else ofDigits? 16 r
      | '0' :: r => ofDigits? 8 r
      | digits =>
        match Text.cutAt? '#' digits with
        | some (b, r) => (ofDigits? 10 b).bind fun b => if 2 ≤ b ∧ b ≤ 64 ∧ r ≠ [] then ofDigits? b r else none
        | none => ofDigits? 10 digits
    match value? with
    | some n => .ok (n, rest)
    | none => .error (.badDigit digits)
  | .dash =>
    let read (base : Nat) (r : Text) : Except SumFault (Int × Text) :=
      let digits := r.takeWhile fun c => (digitValue? base c).isSome
      .ok (((ofDigits? base digits).getD 0 : Nat), r.drop digits.length)
    match t with
    | '0' :: x :: c :: r =>
      if (x = 'x' ∨ x = 'X') ∧ (digitValue? 16 c).isSome then read 16 (c :: r) else read 8 (x :: c :: r)
    | '0' :: r => read 8 r
    | t => read 10 t

/-- The numbers that a machine word with a sign holds. -/
def wrapped (n : Int) : Int := Int.bmod n (2 ^ 64)

mutual

/-- The expression at the front of a text, and the text behind it. -/
def assignment (fuel : Nat) (d : Dialect) (t : Text) : Except SumFault (Sum × Text) :=
  match fuel with
  | 0 => .error .tooDeep
  | fuel + 1 => do
    let (a, r) ← operand fuel d t
    let r := skip r
    match a, sign? d r with
    | .named name index, some s =>
      let isAssignment := s = "=" ∨ s.length ≥ 2 ∧ s.getLast? = some '=' ∧ !(["==", "!=", "<=", ">="].any (s = String.toList ·))
      if isAssignment then do
        let place := skip (r.drop s.length)
        let (v, r) ← assignment fuel d place
        return (.assign name index s.dropLast v place, r)
      else choice fuel d a r
    | a, _ => choice fuel d a r

/-- What an operand goes on to: operations, and a choice between two expressions. -/
def choice (fuel : Nat) (d : Dialect) (a : Sum) (t : Text) : Except SumFault (Sum × Text) :=
  match fuel with
  | 0 => .error .tooDeep
  | fuel + 1 => do
    let (a, r) ← operations fuel d 1 a t
    match skip r with
    | '?' :: r => do
      let (b, r) ← assignment fuel d r
      match skip r with
      | ':' :: r => do
        let (o, r) ← operand fuel d r
        let (c, r) ← choice fuel d o r
        return (.ternary a b c, r)
      | r => .error (.expected "':'" r)
    | r => return (a, r)

/-- The operations with at least this bond that an operand starts. -/
def operations (fuel : Nat) (d : Dialect) (bond : Nat) (a : Sum) (t : Text) : Except SumFault (Sum × Text) :=
  match fuel with
  | 0 => .error .tooDeep
  | fuel + 1 =>
    let t := skip t
    match (sign? d t).bind fun s => (operators.lookup s).map (s, ·) with
    | some (s, b) =>
      if bond ≤ b then do
        let place := skip (t.drop s.length)
        let (c, r) ← operand fuel d place
        let (c, r) ← operations fuel d (if s = "**" then b else b + 1) c r
        operations fuel d bond (.binary s a c place) r
      else .ok (a, t)
    | none => .ok (a, t)

/-- A number, a name, an expression in brackets, or one of them behind signs. -/
def operand (fuel : Nat) (d : Dialect) (t : Text) : Except SumFault (Sum × Text) :=
  match fuel with
  | 0 => .error .tooDeep
  | fuel + 1 =>
    let t := skip t
    match t with
    | [] => .error (.expected "primary" t)
    | c :: r =>
      if c.isDigit then do
        let (n, r) ← numeral d t
        return (.number n, r)
      else if isNameStart c then do
        let (name, r) := (t.takeWhile isNameChar, t.dropWhile isNameChar)
        let (index, r) ← match d, r with
          | .bash, '[' :: s => do
            let (i, s) ← assignment fuel d s
            match skip s with
            | ']' :: s => pure (some i, s)
            | s => throw (.expected "']'" s)
          | _, r => pure (none, r)
        match d, skip r with
        | .bash, '+' :: '+' :: r => return (.step name index 1 true, r)
        | .bash, '-' :: '-' :: r => return (.step name index (-1) true, r)
        | _, _ => return (.named name index, r)
      else if c = '(' then do
        let (a, r) ← expression fuel d r
        match skip r with
        | ')' :: r => return (.unary "+" a, r)
        | r => .error (.expected "')'" r)
      else
        match sign? d t with
        | some s =>
          if s = "++" ∨ s = "--" then do
            let (a, r) ← operand fuel d (r.drop 1)
            match a with
            | .named name index => return (.step name index (if s = "++" then 1 else -1) false, r)
            | a => return (.unary "+" a, r)
          else if ["+", "-", "!", "~"].any (s = String.toList ·) then do
            let (a, r) ← operand fuel d r
            return (.unary s a, r)
          else .error (.expected "primary" t)
        | none => .error (.expected "primary" t)

/-- Expressions between commas, of which the last one counts. -/
def expression (fuel : Nat) (d : Dialect) (t : Text) : Except SumFault (Sum × Text) :=
  match fuel with
  | 0 => .error .tooDeep
  | fuel + 1 => do
    let (a, r) ← assignment fuel d t
    match d, skip r with
    | .bash, ',' :: r => do
      let (b, r) ← expression fuel d r
      return (.binary "," a b r, r)
    | _, r => return (a, r)

end

/-- The whole of a text as an expression. -/
def read (d : Dialect) (t : Text) : Except SumFault Sum :=
  if d = .bash ∧ skip t = [] then .ok (.number 0)
  else
    match expression (4 * t.length + 16) d t with
    | .error f => .error f
    | .ok (a, r) => if skip r = [] then .ok a else .error (.expected "EOF" (skip r))

/-- The result of an operation on two numbers. -/
def apply (operator : Text) (a b : Int) (place : Text) : Except SumFault Int :=
  let truth (b : Bool) : Int := if b then 1 else 0
  let bits (f : Nat → Nat → Nat) : Int :=
    wrapped (f (a % 2 ^ 64).toNat (b % 2 ^ 64).toNat)
  match operator with
  | ['+'] => .ok (wrapped (a + b))
  | ['-'] => .ok (wrapped (a - b))
  | ['*'] => .ok (wrapped (a * b))
  | ['/'] => if b = 0 then .error (.divisionByZero place) else .ok (wrapped (a.tdiv b))
  | ['%'] => if b = 0 then .error (.divisionByZero place) else .ok (a.tmod b)
  | ['*', '*'] => if b < 0 then .error (.negativeExponent place) else .ok (wrapped (a ^ b.toNat))
  | ['<', '<'] => .ok (wrapped (a * 2 ^ (b % 64).toNat))
  | ['>', '>'] => .ok (a / 2 ^ (b % 64).toNat)
  | ['<'] => .ok (truth (a < b))
  | ['>'] => .ok (truth (b < a))
  | ['<', '='] => .ok (truth (a ≤ b))
  | ['>', '='] => .ok (truth (b ≤ a))
  | ['=', '='] => .ok (truth (a = b))
  | ['!', '='] => .ok (truth (a ≠ b))
  | ['&'] => .ok (bits Nat.land)
  | ['^'] => .ok (bits Nat.xor)
  | ['|'] => .ok (bits Nat.lor)
  | _ => .ok b

end Sum

/-- What names stand for while an expression is worked out: the values known before, and those given since. -/
structure Values where
  known : Text → Option Text → Option Text
  given : List ((Text × Option Text) × Text) := []

def Values.find? (v : Values) (name : Text) (index : Option Text) : Option Text :=
  (v.given.lookup (name, index)).or (v.known name index)

/-- The number that an expression comes to, and the values of names behind it. -/
def evaluate (fuel : Nat) (d : Dialect) (v : Values) (a : Sum) : Except SumFault (Int × Values) :=
  match fuel with
  | 0 => .error .tooDeep
  | fuel + 1 =>
    let indexed (v : Values) (index : Option Sum) : Except SumFault (Option Text × Values) :=
      match index with
      | none => .ok (none, v)
      | some i => (evaluate fuel d v i).map fun (n, v) => (some (ofInt n), v)
    let current (v : Values) (name : Text) (index : Option Text) : Except SumFault (Int × Values) := do
      let t := (v.find? name index).getD []
      match d with
      | .dash =>
        let (sign, t') : Int × Text := match Sum.skip t with
          | '-' :: r => (-1, r)
          | '+' :: r => (1, r)
          | t => (1, t)
        if t' = [] then return (0, v)
        let (n, r) ← Sum.numeral .dash t'
        if t'.head?.any Char.isDigit ∧ Sum.skip r = [] then return (sign * n, v) else throw (.badNumber t)
      | .bash => evaluate fuel d v (← Sum.read d t)
    let give (v : Values) (name : Text) (index : Option Text) (n : Int) : Values :=
      { v with given := ((name, index), ofInt n) :: v.given }
    match a with
    | .number n => .ok (Sum.wrapped n, v)
    | .named name index => do
      let (i, v) ← indexed v index
      current v name i
    | .unary s a => do
      let (n, v) ← evaluate fuel d v a
      return (if s = "-" then Sum.wrapped (-n) else if s = "!" then (if n = 0 then 1 else 0)
        else if s = "~" then -n - 1 else n, v)
    | .binary s a b place => do
      let (m, v) ← evaluate fuel d v a
      if s = "&&" ∧ m = 0 then return (0, v)
      if s = "||" ∧ m ≠ 0 then return (1, v)
      let (n, v) ← evaluate fuel d v b
      if s = "&&" ∨ s = "||" then return (if n = 0 then 0 else 1, v)
      return (← Sum.apply s m n place, v)
    | .ternary c a b => do
      let (n, v) ← evaluate fuel d v c
      evaluate fuel d v (if n ≠ 0 then a else b)
    | .assign name index s a place => do
      let (n, v) ← evaluate fuel d v a
      let (i, v) ← indexed v index
      if s = [] then return (n, give v name i n)
      let (m, v) ← current v name i
      let n ← Sum.apply s m n place
      return (n, give v name i n)
    | .step name index size before => do
      let (i, v) ← indexed v index
      let (n, v) ← current v name i
      return (if before then n else Sum.wrapped (n + size), give v name i (Sum.wrapped (n + size)))

/-- How deep an expression may get. -/
def sumLimit : Nat := 1000

/-- The number that a text comes to as an expression, and the values of names behind it. -/
def calculated (d : Dialect) (v : Values) (t : Text) : Except SumFault (Int × Values) := do
  evaluate sumLimit d v (← Sum.read d t)

end SchemaDrift.Shell
