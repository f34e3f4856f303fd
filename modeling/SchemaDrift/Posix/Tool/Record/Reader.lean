import SchemaDrift.Posix.Tool.Record.Lexeme

namespace SchemaDrift.Record

/-- The lexemes that are still to be read, each with the number of its line. -/
abbrev Lexemes : Type := List (Nat × Lexeme)

abbrev TermRead : Type := Except Fault (Term × Lexemes)

abbrev ActionRead : Type := Except Fault (Action × Lexemes)

/-- Which signs are no operators where a term stands. -/
structure Setting where
  /-- A term to be written, behind which a sign may tell where to. -/
  isWritten : Bool := false

def front (ls : Lexemes) : Option Lexeme := (ls.head?).map Prod.snd

def isMark (m : Text) (ls : Lexemes) : Bool := front ls = some (.mark m)

def isKeyword (k : Text) (ls : Lexemes) : Bool := front ls = some (.keyword k)

/-- The fault of what stands in front. -/
def unexpected {α : Type} (ls : Lexemes) : Except Fault α :=
  match ls with
  | (line, l) :: _ => .error ("line " ++ Text.ofNat line ++ ": syntax error at or near " ++ l.shown)
  | [] => .error "line 1: syntax error at or near end of line"

def expectMark (m : Text) (ls : Lexemes) : Except Fault Lexemes :=
  if isMark m ls then .ok ls.tail else unexpected ls

/-- What stands behind line breaks. -/
def skipBreaks (ls : Lexemes) : Lexemes := ls.dropWhile (·.2 = .newline)

/-- What stands behind line breaks and the signs that end an action. -/
def skipEnds (ls : Lexemes) : Lexemes := ls.dropWhile fun (_, l) => l = .newline || l = .mark [';']

/-- The operator that a lexeme gives a spot a value by. -/
def givingOperator? (l : Lexeme) : Option (Option Char) :=
  match l with
  | .mark ['='] => some none
  | .mark [c, '='] => if ['+', '-', '*', '/', '%', '^'].contains c then some (some c) else none
  | _ => none

/-- The orders that a comparison asks for. -/
def orders? (s : Setting) (l : Option Lexeme) : Option (List Ordering) :=
  match l with
  | some (.mark ['<']) => some [.lt]
  | some (.mark ['<', '=']) => some [.lt, .eq]
  | some (.mark ['=', '=']) => some [.eq]
  | some (.mark ['!', '=']) => some [.lt, .gt]
  | some (.mark ['>', '=']) => some [.gt, .eq]
  | some (.mark ['>']) => if s.isWritten then none else some [.gt]
  | _ => none

/-- Whether a term may start here that is joined to the one in front. -/
def startsOperand (ls : Lexemes) : Bool :=
  match front ls with
  | some (.number _) | some (.text _) | some (.pattern _) | some (.name _) | some (.builtin _) => true
  | some (.mark m) => ["$", "(", "++", "--"].any (m = String.toList ·)
  | _ => false

/-- The expression that a pattern spells out. -/
def expressionOf (line : Nat) (t : Text) : Except Fault Expression :=
  (Expression.read .lenient t).mapError fun f =>
    "line " ++ Text.ofNat line ++ ": regular expression compile failed (" ++ f.message ++ ")\n" ++ t

mutual

/-- A term with all that may belong to it. -/
def term (fuel : Nat) (s : Setting) (ls : Lexemes) : TermRead :=
  match fuel with
  | 0 => unexpected ls
  | fuel + 1 => do
    let (c, ls) ← disjunction fuel s ls
    if isMark "?" ls then do
      let (a, ls) ← term fuel s (skipBreaks ls.tail)
      let (b, ls) ← term fuel s (skipBreaks (← expectMark ":" (skipBreaks ls)))
      return (.choose c a b, ls)
    else return (c, ls)

def disjunction (fuel : Nat) (s : Setting) (ls : Lexemes) : TermRead :=
  match fuel with
  | 0 => unexpected ls
  | fuel + 1 => do
    let (a, ls) ← conjunction fuel s ls
    if isMark "||" ls then do
      let (b, ls) ← disjunction fuel s (skipBreaks ls.tail)
      return (.either a b, ls)
    else return (a, ls)

def conjunction (fuel : Nat) (s : Setting) (ls : Lexemes) : TermRead :=
  match fuel with
  | 0 => unexpected ls
  | fuel + 1 => do
    let (a, ls) ← membership fuel s ls
    if isMark "&&" ls then do
      let (b, ls) ← conjunction fuel s (skipBreaks ls.tail)
      return (.both a b, ls)
    else return (a, ls)

def membership (fuel : Nat) (s : Setting) (ls : Lexemes) : TermRead :=
  match fuel with
  | 0 => unexpected ls
  | fuel + 1 => do
    let (a, ls) ← covering fuel s ls
    match isKeyword "in" ls, front ls.tail with
    | true, some (.name list) => return (.member [a] list, ls.drop 2)
    | _, _ => return (a, ls)

def covering (fuel : Nat) (s : Setting) (ls : Lexemes) : TermRead :=
  match fuel with
  | 0 => unexpected ls
  | fuel + 1 => do
    let (a, ls) ← comparison fuel s ls
    if isMark "~" ls || isMark "!~" ls then do
      let negated := isMark "!~" ls
      let (b, ls) ← comparison fuel s ls.tail
      let c : Term := .covered a b
      return (if negated then .not c else c, ls)
    else return (a, ls)

def comparison (fuel : Nat) (s : Setting) (ls : Lexemes) : TermRead :=
  match fuel with
  | 0 => unexpected ls
  | fuel + 1 => do
    let (a, ls) ← joining fuel s ls
    match orders? s (front ls) with
    | some orders => do
      let (b, ls) ← joining fuel s ls.tail
      return (.compared orders a b, ls)
    | none => return (a, ls)

def joining (fuel : Nat) (s : Setting) (ls : Lexemes) : TermRead :=
  match fuel with
  | 0 => unexpected ls
  | fuel + 1 => do
    let (a, ls) ← sum fuel s ls
    joinings fuel s a ls

/-- The terms that are joined to the one in front. -/
def joinings (fuel : Nat) (s : Setting) (a : Term) (ls : Lexemes) : TermRead :=
  match fuel with
  | 0 => unexpected ls
  | fuel + 1 =>
    if startsOperand ls then do
      let (b, ls) ← sum fuel s ls
      joinings fuel s (.joined a b) ls
    else .ok (a, ls)

def sum (fuel : Nat) (s : Setting) (ls : Lexemes) : TermRead :=
  match fuel with
  | 0 => unexpected ls
  | fuel + 1 => do
    let (a, ls) ← product fuel s ls
    sums fuel s a ls

def sums (fuel : Nat) (s : Setting) (a : Term) (ls : Lexemes) : TermRead :=
  match fuel with
  | 0 => unexpected ls
  | fuel + 1 =>
    match front ls with
    | some (.mark [c]) =>
      if c = '+' ∨ c = '-' then do
        let (b, ls) ← product fuel s ls.tail
        sums fuel s (.arithmetic c a b) ls
      else .ok (a, ls)
    | _ => .ok (a, ls)

def product (fuel : Nat) (s : Setting) (ls : Lexemes) : TermRead :=
  match fuel with
  | 0 => unexpected ls
  | fuel + 1 => do
    let (a, ls) ← signed fuel s ls
    products fuel s a ls

def products (fuel : Nat) (s : Setting) (a : Term) (ls : Lexemes) : TermRead :=
  match fuel with
  | 0 => unexpected ls
  | fuel + 1 =>
    match front ls with
    | some (.mark [c]) =>
      if ['*', '/', '%'].contains c then do
        let (b, ls) ← signed fuel s ls.tail
        products fuel s (.arithmetic c a b) ls
      else .ok (a, ls)
    | _ => .ok (a, ls)

/-- A term behind signs. -/
def signed (fuel : Nat) (s : Setting) (ls : Lexemes) : TermRead :=
  match fuel with
  | 0 => unexpected ls
  | fuel + 1 =>
    match front ls with
    | some (.mark ['-']) => (signed fuel s ls.tail).map fun (a, ls) => (.negative a, ls)
    | some (.mark ['+']) => (signed fuel s ls.tail).map fun (a, ls) => (.positive a, ls)
    | some (.mark ['!']) => (signed fuel s ls.tail).map fun (a, ls) => (.not a, ls)
    | _ => power fuel s ls

def power (fuel : Nat) (s : Setting) (ls : Lexemes) : TermRead :=
  match fuel with
  | 0 => unexpected ls
  | fuel + 1 => do
    let (a, ls) ← operand fuel s ls
    if isMark "^" ls then do
      let (b, ls) ← signed fuel s ls.tail
      return (.arithmetic '^' a b, ls)
    else return (a, ls)

/-- A spot with what is done to it. -/
def used (fuel : Nat) (s : Setting) (p : Spot) (ls : Lexemes) : TermRead :=
  match fuel with
  | 0 => unexpected ls
  | fuel + 1 =>
    if isMark "++" ls then .ok (.count p true false, ls.tail)
    else if isMark "--" ls then .ok (.count p false false, ls.tail)
    else
      match (front ls).bind givingOperator? with
      | some operator => do
        let (a, ls) ← term fuel s (skipBreaks ls.tail)
        return (.give operator p a, ls)
      | none => .ok (.value p, ls)

/-- A spot, if one stands in front. -/
def spot? (fuel : Nat) (s : Setting) (ls : Lexemes) : Except Fault (Option Spot × Lexemes) :=
  match fuel with
  | 0 => unexpected ls
  | fuel + 1 =>
    match front ls with
    | some (.mark ['$']) => do
      let (a, ls) ←
        if isMark "++" ls.tail || isMark "--" ls.tail || isMark "-" ls.tail then signed fuel s ls.tail
        else fieldNumber fuel s ls.tail
      return (some (.field a), ls)
    | some (.name n) =>
      if isMark "[" ls.tail then do
        let (indices, ls) ← terms fuel {} ls.tail.tail
        return (some (.element n indices), ← expectMark "]" ls)
      else .ok (some (.named n), ls.tail)
    | _ => .ok (none, ls)

/-- The term behind the sign of a field, which takes no operators. -/
def fieldNumber (fuel : Nat) (s : Setting) (ls : Lexemes) : TermRead :=
  match fuel with
  | 0 => unexpected ls
  | fuel + 1 => do
    match ← spot? fuel s ls with
    | (some p, ls) => return (.value p, ls)
    | (none, ls) => operand fuel s ls

def operand (fuel : Nat) (s : Setting) (ls : Lexemes) : TermRead :=
  match fuel with
  | 0 => unexpected ls
  | fuel + 1 =>
    match ls with
    | (_, .number x) :: rest => .ok (.number x, rest)
    | (_, .text t) :: rest => .ok (.text t, rest)
    | (line, .pattern t) :: rest => (expressionOf line t).map fun e => (.pattern e, rest)
    | (_, .mark ['(']) :: rest => do
      let (ts, r) ← terms fuel {} (skipBreaks rest)
      let r ← expectMark ")" (skipBreaks r)
      match ts, isKeyword "in" r, front r.tail with
      | _ :: _ :: _, true, some (.name list) => return (.member ts list, r.drop 2)
      | [t], _, _ => return (t, r)
      | _, _, _ => unexpected r
    | (_, .mark ['-', '-']) :: rest | (_, .mark ['+', '+']) :: rest => do
      match ← spot? fuel s rest with
      | (some p, r) => return (.count p (isMark "++" ls) true, r)
      | (none, r) => unexpected r
    | (_, .builtin name) :: rest =>
      if isMark "(" rest then do
        let (ts, r) ← if isMark ")" rest.tail then pure ([], rest.tail) else terms fuel {} (skipBreaks rest.tail)
        return (.call name ts, ← expectMark ")" (skipBreaks r))
      else if name = "length" then .ok (.call name [], rest)
      else unexpected rest
    | (_, .keyword k) :: rest =>
      if k = "getline" then do
        let (into, r) ← spot? fuel s rest
        if isMark "<" r then do
          let (file, r) ← operand fuel s r.tail
          return (.readLine into (some file), r)
        else return (.readLine into none, r)
      else unexpected ls
    | _ => do
      match ← spot? fuel s ls with
      | (some p, r) => used fuel s p r
      | (none, r) => unexpected r

/-- Terms with commas between them. -/
def terms (fuel : Nat) (s : Setting) (ls : Lexemes) : Except Fault (List Term × Lexemes) :=
  match fuel with
  | 0 => unexpected ls
  | fuel + 1 => do
    let (a, ls) ← term fuel s ls
    if isMark "," ls then do
      let (as, ls) ← terms fuel s (skipBreaks ls.tail)
      return (a :: as, ls)
    else return ([a], ls)

end

/-- Whether nothing more belongs to an action. -/
def isEnd (ls : Lexemes) : Bool :=
  match front ls with
  | none | some .newline => true
  | some (.mark m) => m = ";" || m = "\x7d"
  | _ => false

/-- What an action writes, and where to. -/
def written (fuel : Nat) (ls : Lexemes) : Except Fault (List Term × Option Outlet × Lexemes) := do
  let s : Setting := { isWritten := true }
  let isBehind (ls : Lexemes) : Bool := isEnd ls || [">", ">>", "|"].any fun m => isMark m.toList ls
  let (ts, ls) ←
    if isBehind ls then pure ([], ls)
    else
      match if isMark "(" ls then terms fuel {} (skipBreaks ls.tail) else .error [] with
      | .ok (ts, r) => if isMark ")" r && isBehind r.tail then pure (ts, r.tail) else terms fuel s ls
      | .error _ => terms fuel s ls
  let target (make : Term → Outlet) : Except Fault (List Term × Option Outlet × Lexemes) := do
    let (path, ls) ← term fuel s ls.tail
    return (ts, some (make path), ls)
  if isMark ">" ls then target .file
  else if isMark ">>" ls then target .fileEnd
  else if isMark "|" ls then target .command
  else return (ts, none, ls)

/-- The actions of a list, or the last one of them. -/
def sequence (as : List Action) : Action := as.foldr (fun a b => match b with | .skip => a | b => .seq a b) .skip

mutual

/-- An action that others may follow, without the sign that ends it. -/
def simple (fuel : Nat) (ls : Lexemes) : ActionRead :=
  match fuel with
  | 0 => unexpected ls
  | fuel + 1 =>
    match ls with
    | (_, .keyword k) :: rest =>
      if k = "print" then do
        let (ts, outlet, r) ← written fuel rest
        return (.print ts outlet, r)
      else if k = "printf" then do
        let (ts, outlet, r) ← written fuel rest
        if ts.isEmpty then unexpected r else return (.printFormat ts outlet, r)
      else if k = "next" then .ok (.next, rest)
      else if k = "nextfile" then .ok (.nextFile, rest)
      else if k = "break" then .ok (.leave, rest)
      else if k = "continue" then .ok (.again, rest)
      else if k = "exit" then
        if isEnd rest then .ok (.exit none, rest)
        else do
          let (t, r) ← term fuel {} rest
          return (.exit (some t), r)
      else if k = "delete" then do
        match ← spot? fuel {} rest with
        | (some (.element n indices), r) => .ok (.delete n indices, r)
        | (some (.named n), r) => .ok (.delete n [], r)
        | (_, r) => unexpected r
      else do
        let (t, r) ← term fuel {} ls
        return (.term t, r)
    | _ => do
      let (t, r) ← term fuel {} ls
      return (.term t, r)

/-- A simple action with the sign that ends it, or another one. -/
def action (fuel : Nat) (ls : Lexemes) : ActionRead :=
  match fuel with
  | 0 => unexpected ls
  | fuel + 1 =>
    let ended (a : Action) (ls : Lexemes) : ActionRead :=
      if isMark "\x7d" ls || ls.isEmpty then .ok (a, ls)
      else if isEnd ls then .ok (a, ls.tail)
      else unexpected ls
    let bracketed (ls : Lexemes) : TermRead := do
      let (c, r) ← term fuel {} (← expectMark "(" ls)
      return (c, ← expectMark ")" r)
    match ls with
    | (_, .mark m) :: rest =>
      if m = "\x7b" then do
        let (as, r) ← actions fuel rest
        return (sequence as, ← expectMark "\x7d" r)
      else if m = ";" then .ok (.skip, rest)
      else do
        let (a, r) ← simple fuel ls
        ended a r
    | (_, .keyword k) :: rest =>
      if k = "if" then do
        let (c, r) ← bracketed rest
        let (a, r) ← action fuel (skipBreaks r)
        let s := skipEnds r
        if isKeyword "else" s then do
          let (b, r) ← action fuel (skipBreaks s.tail)
          return (.choose c a b, r)
        else return (.choose c a .skip, r)
      else if k = "while" then do
        let (c, r) ← bracketed rest
        let (a, r) ← if isMark ";" r then pure (.skip, r.tail) else action fuel (skipBreaks r)
        return (.loop false c .skip a, r)
      else if k = "do" then do
        let (a, r) ← action fuel (skipBreaks rest)
        let r := skipEnds r
        if isKeyword "while" r then do
          let (c, r) ← bracketed r.tail
          ended (.loop true c .skip a) r
        else unexpected r
      else if k = "for" then do
        let r ← expectMark "(" rest
        match r with
        | (_, .name n) :: (_, .keyword ['i', 'n']) :: (_, .name list) :: (_, .mark [')']) :: r => do
          let (a, r) ← action fuel (skipBreaks r)
          return (.each n list a, r)
        | r => do
          let (start, r) ← if isMark ";" r then pure (.skip, r) else simple fuel r
          let r := skipBreaks (← expectMark ";" r)
          let (c, r) ← if isMark ";" r then pure (.number (.ofInt 1), r) else term fuel {} r
          let r := skipBreaks (← expectMark ";" r)
          let (step, r) ← if isMark ")" r then pure (.skip, r) else simple fuel r
          let r ← expectMark ")" r
          let (a, r) ← if isMark ";" r then pure (.skip, r.tail) else action fuel (skipBreaks r)
          return (.seq start (.loop false c step a), r)
      else do
        let (a, r) ← simple fuel ls
        ended a r
    | _ => do
      let (a, r) ← simple fuel ls
      ended a r

/-- The actions up to a closing brace. -/
def actions (fuel : Nat) (ls : Lexemes) : Except Fault (List Action × Lexemes) :=
  match fuel with
  | 0 => unexpected ls
  | fuel + 1 =>
    let ls := skipEnds ls
    if isMark "\x7d" ls || ls.isEmpty then .ok ([], ls)
    else do
      let (a, ls) ← action fuel ls
      let (as, ls) ← actions fuel ls
      return (a :: as, ls)

end

/-- The rules of a script. -/
def rules (fuel : Nat) (ls : Lexemes) : Except Fault (List Rule) :=
  match fuel with
  | 0 => unexpected ls
  | fuel + 1 =>
    let ls := skipEnds ls
    if ls.isEmpty then .ok []
    else do
      let body (needed : Bool) (ls : Lexemes) : Except Fault (Option Action × Lexemes) :=
        if isMark "\x7b" ls then (action fuel ls).map fun (a, ls) => (some a, ls)
        else if needed then unexpected ls
        else .ok (none, ls)
      let (condition, needed, r) : Condition × Bool × Lexemes ←
        if isKeyword "BEGIN" ls then pure (.first, true, ls.tail)
        else if isKeyword "END" ls then pure (.last, true, ls.tail)
        else if isMark "\x7b" ls then pure (.always, true, ls)
        else do
          let (a, r) ← term fuel {} ls
          if isMark "," r then do
            let (b, r) ← term fuel {} (skipBreaks r.tail)
            pure (.range a b, false, r)
          else pure (.holds a, false, r)
      let (a, r) ← body needed r
      let rest ← rules fuel r
      return ⟨condition, a⟩ :: rest

/-- Reads a script. -/
def read (t : Text) : Except Fault (List Rule) := do
  let ls ← lexemes (t.length + 1) 1 false t
  let size := ls.length
  let opened := (ls.filter fun (_, l) => l = .mark ['\x7b']).length
  let closed := (ls.filter fun (_, l) => l = .mark ['\x7d']).length
  if closed < opened then
    throw ("line " ++ Text.ofNat (t.count '\n' + 2) ++ ": missing \x7d near end of file")
  rules (16 * size + 64) ls

end SchemaDrift.Record
