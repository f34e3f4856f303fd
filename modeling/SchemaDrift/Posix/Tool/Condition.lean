import SchemaDrift.Posix.Tool.Format

namespace SchemaDrift.Tool

/-- Whether a test of a file holds for what a path leads to. -/
def fileHolds (files : FileTree) (operator path : Text) : Bool :=
  let entry := if path = [] then none else files.find? path
  let isLink : Bool := match FileTree.checkPath path, files.place (files.start path) (path.splitOn '/') with
    | .ok _, .ok l => (files.entry? l).any fun e => match e with | .link _ => true | _ => false
    | _, _ => false
  match entry with
  | none => (operator = "-L" || operator = "-h") && isLink
  | some e =>
    if operator = "-d" then e = .directory
    else if operator = "-f" then match e with | .file .. | .program _ => true | _ => false
    else if operator = "-s" then match e with | .file _ bytes _ => bytes ≠ [] | .directory | .program _ => true | _ => false
    else if operator = "-x" then match e with | .file _ _ x => x | .directory | .program _ => true | _ => false
    else if operator = "-c" then match e with | .device _ => true | _ => false
    else if operator = "-L" ∨ operator = "-h" then isLink
    else ["-e", "-a", "-r", "-w", "-O", "-G", "-N"].any (operator = String.toList ·)

/-- What the words of a condition are for. -/
inductive TestToken where
  | ending
  | opening
  | closing
  | negation
  | conjunction
  | disjunction
  | unary (operator : Text)
  | binary (operator : Text)
  | operand
  deriving DecidableEq, Repr

namespace TestToken

def unaries : List Text :=
  ["-r", "-w", "-x", "-e", "-f", "-d", "-c", "-b", "-p", "-u", "-g", "-k", "-s", "-t", "-z", "-n", "-h", "-O", "-G", "-L",
    "-S"].map String.toList

def binaries (speaker : Speaker) : List Text :=
  let common : List Text := ["=", "!=", "<", ">", "-eq", "-ne", "-ge", "-gt", "-le", "-lt", "-nt", "-ot", "-ef"]
  if speaker = some .dash then common else "==".toList :: common

/-- What a word would be on its own. -/
def of (speaker : Speaker) (t : Text) : TestToken :=
  if t = "(" then .opening
  else if t = ")" then .closing
  else if t = "!" then .negation
  else if t = "-a" then .conjunction
  else if t = "-o" then .disjunction
  else if unaries.contains t then .unary t
  else if (binaries speaker).contains t then .binary t
  else .operand

def isBinary : TestToken → Bool
  | .binary _ => true
  | _ => false

/-- What the first of these words is for, given those that follow it. -/
def first (speaker : Speaker) : List Text → TestToken
  | [] => .ending
  | t :: rest =>
    match of speaker t, rest with
    | .unary _, [] => .operand
    | .unary o, [_] => .unary o
    | .unary o, b :: _ :: _ => if (of speaker b).isBinary then .operand else .unary o
    | .opening, [] => .operand
    | k, _ => k

end TestToken

/-- A whole number that a test compares. -/
def testNumber (speaker : Speaker) (t : Text) : Except Text Int :=
  let isGap (c : Char) : Bool := c = ' ' || ('\t' ≤ c && c ≤ '\r')
  let s := ((t.dropWhile isGap).reverse.dropWhile isGap).reverse
  let (sign, ds) : Int × Text := match s with
    | '-' :: r => (-1, r)
    | '+' :: r => (1, r)
    | r => (1, r)
  if ds = [] ∨ !ds.all Char.isDigit then
    .error (match speaker with
      | some .dash => "Illegal number: " ++ t
      | some .bash => t ++ ": integer expression expected"
      | none => "invalid integer '" ++ t ++ "'")
  else .ok (sign * (ds.foldl (fun n c => 10 * n + (c.toNat - 48)) 0 : Nat))

def unaryHolds (speaker : Speaker) (files : FileTree) (operator operand : Text) : Except Text Bool :=
  if operator = "-n" then .ok (operand ≠ [])
  else if operator = "-z" then .ok (operand = [])
  else if operator = "-t" then (testNumber speaker operand).map fun _ => false
  else .ok (fileHolds files operator operand)

def binaryHolds (speaker : Speaker) (files : FileTree) (operator a b : Text) : Except Text Bool :=
  let numbers (holds : Int → Int → Bool) : Except Text Bool := do
    return holds (← testNumber speaker a) (← testNumber speaker b)
  if operator = "=" ∨ operator = "==" then .ok (a = b)
  else if operator = "!=" then .ok (a ≠ b)
  else if operator = "<" then .ok (a < b)
  else if operator = ">" then .ok (b < a)
  else if operator = "-eq" then numbers (· == ·)
  else if operator = "-ne" then numbers (· != ·)
  else if operator = "-lt" then numbers (· < ·)
  else if operator = "-le" then numbers (· ≤ ·)
  else if operator = "-gt" then numbers (· > ·)
  else if operator = "-ge" then numbers (· ≥ ·)
  else if operator = "-ef" then .ok (match files.locate a, files.locate b with | .ok l, .ok m => l = m | _, _ => false)
  else if speaker = some .dash then .ok false
  else if operator = "-nt" then .ok (files.pathExists a && !files.pathExists b)
  else .ok (files.pathExists b && !files.pathExists a)

mutual

/-- Whether one of some conditions holds, and the words from the last one on that belongs to them. The
token at the front is given, since what is in front of it may decide what it is. -/
def someHold (fuel : Nat) (speaker : Speaker) (files : FileTree) (token : TestToken) (ws : List Text) :
    Except Text (Bool × List Text) :=
  match fuel with
  | 0 => .ok (false, ws)
  | fuel + 1 => do
    let (a, ws) ← allHold fuel speaker files token ws
    if TestToken.first speaker ws.tail = .disjunction then
      let ws := ws.drop 2
      let (b, ws) ← someHold fuel speaker files (.first speaker ws) ws
      return (a || b, ws)
    else return (a, ws)

/-- Whether all of some conditions hold. -/
def allHold (fuel : Nat) (speaker : Speaker) (files : FileTree) (token : TestToken) (ws : List Text) :
    Except Text (Bool × List Text) :=
  match fuel with
  | 0 => .ok (false, ws)
  | fuel + 1 => do
    let (a, ws) ← oneHolds fuel speaker files token ws
    if TestToken.first speaker ws.tail = .conjunction then
      let ws := ws.drop 2
      let (b, ws) ← allHold fuel speaker files (.first speaker ws) ws
      return (a && b, ws)
    else return (a, ws)

def oneHolds (fuel : Nat) (speaker : Speaker) (files : FileTree) (token : TestToken) (ws : List Text) :
    Except Text (Bool × List Text) :=
  match fuel with
  | 0 => .ok (false, ws)
  | fuel + 1 =>
    match token with
    | .negation => do
      let next := TestToken.first speaker ws.tail
      let (a, ws) ← oneHolds fuel speaker files next (if next = .ending then ws else ws.tail)
      return (!a, ws)
    | .ending => .ok (false, ws)
    | .opening => do
      let next := TestToken.first speaker ws.tail
      if next = .closing then return (false, ws.tail)
      let (a, ws) ← someHold fuel speaker files next ws.tail
      if TestToken.first speaker ws.tail = .closing then return (a, ws.tail) else throw "closing paren expected".toList
    | .unary operator =>
      match ws.tail with
      | [] => .error (operator ++ ": argument expected")
      | a :: rest => (unaryHolds speaker files operator a).map (·, a :: rest)
    | _ =>
      match TestToken.first speaker ws.tail with
      | .binary operator =>
        match ws.drop 2 with
        | [] => .error (operator ++ ": argument expected")
        | b :: rest => (binaryHolds speaker files operator (ws.headD []) b).map (·, b :: rest)
      | _ => .ok (ws.headD [] ≠ [], ws)

end

/-- Whether a condition of any length holds; what is left over is a fault that `leftOver` words,
given the word where the condition ends and the one behind it. -/
def wholeHolds (speaker : Speaker) (files : FileTree) (leftOver : Text → Text → Text) (token : TestToken) (ws : List Text) :
    Except Text Bool := do
  let (holds, rest) ← someHold (4 * ws.length + 4) speaker files token ws
  match rest with
  | here :: next :: _ => throw (leftOver here next)
  | _ => return holds

/-- Whether a condition holds as the plain shell reads it; an exclamation mark in front of three words or
fewer turns what follows it round. -/
def plainHolds (fuel : Nat) (files : FileTree) (ws : List Text) : Except Text Bool :=
  match fuel with
  | 0 => .ok false
  | fuel + 1 =>
    let speaker : Speaker := some .dash
    let whole (token : TestToken) (ws : List Text) : Except Text Bool :=
      let leftOver (here _ : Text) : Text :=
        if here = [] then "unexpected operator" else here ++ ": unexpected operator"
      wholeHolds speaker files leftOver token ws
    if ws = [] then .ok false
    else if ws.length = 3 ∧ (TestToken.of speaker (ws.getD 1 [])).isBinary then whole .operand ws
    else if ws.length = 3 ∨ ws.length = 4 then
      if ws.head? = some ['('] ∧ ws.getLast? = some [')'] then
        let inner := ws.tail.dropLast
        whole (.first speaker inner) inner
      else if ws.head? = some ['!'] then (plainHolds fuel files ws.tail).map (!·)
      else whole (.first speaker ws) ws
    else whole (.first speaker ws) ws

/-- Whether a condition holds as the others read it: how many words there are decides what they are for. -/
def countedHolds (fuel : Nat) (speaker : Speaker) (files : FileTree) (ws : List Text) : Except Text Bool :=
  match fuel with
  | 0 => .ok false
  | fuel + 1 =>
    let said (bash program : Text) : Except Text Bool := .error (if speaker = none then program else bash)
    let whole : Except Text Bool :=
      wholeHolds speaker files (fun _ next => if speaker = none then "extra argument '" ++ next ++ "'" else "too many arguments")
        (.first speaker ws) ws
    match ws with
    | [] => .ok false
    | [a] => .ok (a ≠ [])
    | [a, b] =>
      if a = "!" then .ok (b = [])
      else if TestToken.unaries.contains a then unaryHolds speaker files a b
      else if a = "-a" then .ok (fileHolds files a b)
      else said (a ++ ": unary operator expected") ("'" ++ a ++ "': unary operator expected")
    | [a, b, c] =>
      if (TestToken.binaries speaker).contains b then binaryHolds speaker files b a c
      else if b = "-a" then .ok (a ≠ [] && c ≠ [])
      else if b = "-o" then .ok (a ≠ [] || c ≠ [])
      else if a = "!" then (countedHolds fuel speaker files [b, c]).map (!·)
      else if a = "(" ∧ c = ")" then .ok (b ≠ [])
      else said (b ++ ": binary operator expected") ("'" ++ b ++ "': binary operator expected")
    | [a, b, c, d] =>
      if a = "!" then (countedHolds fuel speaker files [b, c, d]).map (!·)
      else if a = "(" ∧ d = ")" then countedHolds fuel speaker files [b, c]
      else whole
    | _ => whole

/-- The status of a condition: zero if it holds, one if not, two if it makes no sense; `origin` is what
stands in front of complaints. -/
def test (speaker : Speaker) (origin : Text) (files : FileTree) (ws : List Text) : Effect :=
  let holds := if speaker = some .dash then plainHolds (ws.length + 2) files ws
    else countedHolds (ws.length + 2) speaker files ws
  match holds with
  | .ok holds => { status := if holds then 0 else 1 }
  | .error message => .complaint 2 (origin ++ message)

end SchemaDrift.Tool
