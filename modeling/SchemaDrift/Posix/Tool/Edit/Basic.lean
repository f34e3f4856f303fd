import SchemaDrift.Posix.Text.Expression

namespace SchemaDrift.Edit

/-- An expression with the way it is searched; without an expression, the one searched last. -/
structure Search where
  expression : Option Expression
  mode : Expression.Mode := {}

/-- Which line is meant. -/
inductive Address where
  | line (n : Nat)
  | last
  | found (s : Search)
  /-- The line `first` and every line that is a number of steps behind it. -/
  | every (first step : Nat)

/-- Where a range of lines ends. -/
inductive RangeEnd where
  | at_ (a : Address)
  /-- So many lines further. -/
  | after (n : Nat)
  /-- At the next line whose number is a multiple. -/
  | multiple (n : Nat)

/-- The lines that a step is taken for: all, one, or a range of them. -/
inductive Selection where
  | all
  | one (a : Address)
  | range (a : Address) (b : RangeEnd)

/-- A part of what is put in the place of something found. -/
inductive Part where
  | text (t : Text)
  | group (n : Nat)
  /-- All that follows is in upper or lower case, or as it is. -/
  | cased (upper : Option Bool)
  /-- The next character is in upper or lower case. -/
  | casedOnce (upper : Bool)

structure Substitution where
  search : Search
  parts : List Part
  /-- The first place that counts. -/
  first : Nat := 1
  everywhere : Bool := false
  prints : Bool := false
  writes : Option Text := none

inductive Action where
  /-- Opens a block; `behind` is the step behind its end. -/
  | open_ (behind : Nat)
  | nothing
  | substitute (s : Substitution)
  | replaceEach (pairs : List (Char × Char))
  | print
  | printFirst
  | delete
  | deleteFirst
  | clear
  | next
  | addNext
  | hold
  | addHold
  | fetch
  | addFetch
  | exchange
  | append (t : Text)
  | insert (t : Text)
  | change (t : Text)
  | number
  | list
  | jump (target : Nat)
  /-- Goes on at another step if something has been replaced, or if nothing has. -/
  | jumpIf (replaced : Bool) (target : Nat)
  | readFile (path : Text)
  | writeFile (path : Text)
  | writeFirst (path : Text)
  | quit (code : Nat) (prints : Bool)

structure Step where
  selection : Selection
  negated : Bool
  action : Action

/-- An action whose targets are labels yet. -/
inductive Draft where
  | done (a : Action)
  | opening
  | closing
  | label (name : Text)
  | jump (kind : Char) (name : Text)

structure DraftStep where
  selection : Selection
  negated : Bool
  draft : Draft

/-- Why a text is no script: what is wrong, and the text behind the place where it shows, unless the fault
has no place. -/
structure Fault where
  message : Text
  rest : Option Text

def isGap (c : Char) : Bool := c = ' ' || c = '\t' || c = '\r' || c = '\x0b' || c = '\x0c'

def skipGaps (t : Text) : Text := t.dropWhile isGap

/-- The text up to a delimiter that nothing quotes, and the text behind it. In an expression a delimiter
between brackets is no end. -/
def cutAtDelimiter (expression : Bool) (delimiter : Char) (fuel : Nat) (t : Text) : Option (Text × Text) :=
  match fuel with
  | 0 => none
  | fuel + 1 =>
    let behind (a : Text) (r : Text) : Option (Text × Text) :=
      (cutAtDelimiter expression delimiter fuel r).map fun (b, r) => (a ++ b, r)
    match t with
    | [] => none
    | '\\' :: c :: r =>
      if c = 'n' ∧ expression ∧ delimiter ≠ 'n' then behind ['\n'] r
      else if c = delimiter ∧ !(c = '&' ∧ !expression) then
        behind (if expression ∧ ['.', '*', '[', ']', '^', '$', '+', '?', '(', ')', '\x7b', '\x7d', '|'].contains c then ['\\', c] else [c]) r
      else behind ['\\', c] r
    | c :: r =>
      if c = delimiter then some ([], r)
      else if c = '\n' ∧ expression then none
      else if expression ∧ c = '[' then
        match CharSet.read? ['^'] (r.map (⟨·, false⟩)) with
        | some (_, rest) =>
          let n := r.length - rest.length
          behind ('[' :: r.take n) (r.drop n)
        | none => none
      else behind [c] r

/-- The number at the front of a text. -/
def number? (t : Text) : Option (Nat × Text) :=
  let ds := t.takeWhile Char.isDigit
  if ds = [] then none else some (ds.foldl (fun n c => 10 * n + (c.toNat - 48)) 0, t.drop ds.length)

/-- The marks behind an expression that is an address. -/
def searchMode (t : Text) : Expression.Mode × Text :=
  let marks := t.takeWhile fun c => c = 'I' || c = 'M'
  ({ folds := marks.contains 'I', linewise := marks.contains 'M' }, t.drop marks.length)

def search (extended : Bool) (body : Text) (mode : Expression.Mode) (rest : Text) : Except Fault Search :=
  if body = [] then .ok ⟨none, mode⟩
  else
    match Expression.read (if extended then .extended else .basic) body with
    | .ok e => .ok ⟨some e, mode⟩
    | .error f => .error ⟨f.message, if f = .bareClass then none else some rest⟩

/-- The address at the front of a text, if there is one. -/
def address? (extended : Bool) (t : Text) : Except Fault (Option Address × Text) :=
  let found (delimiter : Char) (r : Text) : Except Fault (Option Address × Text) := do
    match cutAtDelimiter true delimiter (r.length + 1) r with
    | none => throw ⟨"unterminated address regex", some []⟩
    | some (body, r) =>
      let (mode, r) := searchMode r
      return (some (.found (← search extended body mode r)), r)
  match t with
  | '$' :: r => .ok (some .last, r)
  | '/' :: r => found '/' r
  | '\\' :: c :: r => found c r
  | t =>
    match number? t with
    | none => .ok (none, t)
    | some (n, r) =>
      match skipGaps r with
      | '~' :: s =>
        match number? (skipGaps s) with
        | some (step, s) => .ok (some (.every n step), s)
        | none => .ok (some (.every n 0), s)
      | _ => .ok (some (.line n), r)

/-- The lines that the step at the front of a text is for. -/
def selection (extended : Bool) (t : Text) : Except Fault (Selection × Text) := do
  let (a, r) ← address? extended t
  match a with
  | none => return (.all, r)
  | some a =>
    match skipGaps r with
    | ',' :: r =>
      let s := skipGaps r
      match s with
      | '+' :: s =>
        match number? s with
        | some (n, s) => return (.range a (.after n), s)
        | none => throw ⟨"expected number", some s⟩
      | '~' :: s =>
        match number? s with
        | some (n, s) => return (.range a (.multiple n), s)
        | none => throw ⟨"expected number", some s⟩
      | s =>
        let (b, s) ← address? extended s
        match b with
        | some b => return (.range a (.at_ b), s)
        | none => throw ⟨"unexpected \x60,'", some s⟩
    | r => return (.one a, r)

/-- The parts of a replacement. -/
def parts (fuel : Nat) (t : Text) : List Part :=
  match fuel with
  | 0 => []
  | fuel + 1 =>
    match t with
    | [] => []
    | '&' :: r => .group 0 :: parts fuel r
    | '\\' :: c :: r =>
      (if c.isDigit then .group (c.toNat - 48)
        else if c = 'n' then .text ['\n']
        else if c = 't' then .text ['\t']
        else if c = 'U' then .cased (some true)
        else if c = 'L' then .cased (some false)
        else if c = 'E' then .cased none
        else if c = 'u' then .casedOnce true
        else if c = 'l' then .casedOnce false
        else .text [c]) :: parts fuel r
    | c :: r => .text [c] :: parts fuel r

/-- How many groups an expression has. -/
def groupCount : Expression → Nat
  | .group n a => max n (groupCount a)
  | .seq a b | .either a b => max (groupCount a) (groupCount b)
  | .repeated a _ _ => groupCount a
  | _ => 0

/-- Where a command ends: in front of a line break, a semicolon, a closing brace or a comment. -/
def atEnd (t : Text) : Except Fault Text :=
  match skipGaps t with
  | [] => .ok []
  | ';' :: r | '\n' :: r => .ok r
  | '\x7d' :: r => .ok ('\x7d' :: r)
  | '#' :: r => .ok ('#' :: r)
  | _ :: r => .error ⟨"extra characters after command", some r⟩

/-- The flags of a substitution. -/
def flags (extended : Bool) (fuel : Nat) (body : Text) (mode : Expression.Mode) (s : Substitution) (t : Text) :
    Except Fault (Substitution × Text) :=
  match fuel with
  | 0 => .ok (s, t)
  | fuel + 1 =>
    let finished (r : Text) : Except Fault (Substitution × Text) := do
      let search ← search extended body mode t
      let most := search.expression.elim 9 groupCount
      let beyond := s.parts.filterMap fun p => match p with
        | .group n => if most < n then some n else none
        | _ => none
      match beyond with
      | n :: _ => throw ⟨"invalid reference \\" ++ Text.ofNat n ++ " on \x60s' command's RHS", some t⟩
      | [] => return ({ s with search }, r)
    match t with
    | [] => finished []
    | '\n' :: r | ';' :: r => finished r
    | '\x7d' :: _ | '#' :: _ => finished t
    | c :: r =>
      if isGap c then flags extended fuel body mode s r
      else if c = 'g' then flags extended fuel body mode { s with everywhere := true } r
      else if c = 'p' then flags extended fuel body mode { s with prints := true } r
      else if c = 'i' ∨ c = 'I' then flags extended fuel body { mode with folds := true } s r
      else if c = 'm' ∨ c = 'M' then flags extended fuel body { mode with linewise := true } s r
      else if c = 'e' then flags extended fuel body mode s r
      else if c = 'w' then
        let path := (skipGaps r).takeWhile (· ≠ '\n')
        flags extended fuel body mode { s with writes := some path } ((skipGaps r).drop path.length)
      else if c = '0' then .error ⟨"number option to \x60s' command may not be zero", some r⟩
      else
        match number? t with
        | some (n, r) => flags extended fuel body mode { s with first := n } r
        | none => .error ⟨"unknown option to \x60s'", some r⟩

/-- A text that an action brings along, up to a line break that nothing quotes. -/
def broughtText : Text → Text × Text
  | [] => ([], [])
  | '\\' :: c :: r =>
    let (a, r) := broughtText r
    ((if c = 't' then '\t' else if c = 'n' then '\n' else c) :: a, r)
  | c :: r =>
    if c = '\n' then ([], r)
    else
      let (a, r) := broughtText r
      (c :: a, r)

/-- The text of an action that brings one along. -/
def text (t : Text) : Except Fault (Text × Text) :=
  let ended (p : Text × Text) : Text × Text := (p.1 ++ ['\n'], p.2)
  match skipGaps t with
  | [] => .error ⟨"expected \\ after \x60a', \x60c' or \x60i'", some []⟩
  | '\\' :: r =>
    match skipGaps r with
    | '\n' :: s => .ok (if s = [] then ([], []) else ended (broughtText s))
    | [] => .ok ([], [])
    | _ => .ok (ended (broughtText r))
  | r => .ok (ended (broughtText r))

/-- The characters of a list whose characters replace each other. -/
def listMembers : Text → Text
  | [] => []
  | '\\' :: c :: r => (if c = 'n' then '\n' else if c = 't' then '\t' else c) :: listMembers r
  | c :: r => c :: listMembers r

def label (t : Text) : Text × Text :=
  let t := skipGaps t
  let name := t.takeWhile fun c => !isGap c && c ≠ ';' && c ≠ '\n'
  (name, t.drop name.length)

/-- The command at the front of a text, and what follows it. -/
def draft (extended : Bool) (hasAddress : Bool) (c : Char) (r : Text) : Except Fault (Draft × Text) := do
  let simple (a : Action) : Except Fault (Draft × Text) := do return (.done a, ← atEnd r)
  let path (make : Text → Action) : Except Fault (Draft × Text) :=
    let s := skipGaps r
    let p := s.takeWhile (· ≠ '\n')
    if p = [] then .error ⟨"missing filename in r/R/w/W commands", some s⟩
    else .ok (.done (make p), s.drop (p.length + 1))
  let code (prints : Bool) : Except Fault (Draft × Text) := do
    let (n, s) := (number? (skipGaps r)).getD (0, r)
    return (.done (.quit n prints), ← atEnd s)
  if c = '\x7b' then return (.opening, r)
  else if c = '\x7d' then
    if hasAddress then throw ⟨"\x7d doesn't want any addresses", some r⟩ else return (.closing, ← atEnd r)
  else if c = ':' then
    if hasAddress then throw ⟨": doesn't want any addresses", some r⟩
    let (name, s) := label r
    if name = [] then throw ⟨"\":\" lacks a label", some s⟩
    return (.label name, ← atEnd s)
  else if c = 'b' ∨ c = 't' ∨ c = 'T' then
    let (name, s) := label r
    return (.jump c name, ← atEnd s)
  else if c = 's' then
    match r with
    | [] => throw ⟨"unterminated \x60s' command", some []⟩
    | delimiter :: r =>
      match cutAtDelimiter true delimiter (r.length + 1) r with
      | none => throw ⟨"unterminated \x60s' command", some []⟩
      | some (body, r) =>
        match cutAtDelimiter false delimiter (r.length + 1) r with
        | none => throw ⟨"unterminated \x60s' command", some []⟩
        | some (by_, r) =>
          let s : Substitution := { search := ⟨none, {}⟩, parts := parts (by_.length + 1) by_ }
          let (s, r) ← flags extended (r.length + 2) body {} s r
          return (.done (.substitute s), r)
  else if c = 'y' then
    match r with
    | [] => throw ⟨"unterminated \x60y' command", some []⟩
    | delimiter :: r =>
      match cutAtDelimiter false delimiter (r.length + 1) r with
      | none => throw ⟨"unterminated \x60y' command", some []⟩
      | some (a, r) =>
        match cutAtDelimiter false delimiter (r.length + 1) r with
        | none => throw ⟨"unterminated \x60y' command", some []⟩
        | some (b, r) =>
          let (a, b) := (listMembers a, listMembers b)
          if a.length ≠ b.length then throw ⟨"strings for \x60y' command are different lengths", some r⟩
          return (.done (.replaceEach (a.zip b)), ← atEnd r)
  else if c = 'a' ∨ c = 'i' ∨ c = 'c' then
    let (t, s) ← text r
    return (.done (if c = 'a' then .append t else if c = 'i' then .insert t else .change t), s)
  else if c = 'p' then simple .print
  else if c = 'P' then simple .printFirst
  else if c = 'd' then simple .delete
  else if c = 'D' then simple .deleteFirst
  else if c = 'n' then simple .next
  else if c = 'N' then simple .addNext
  else if c = 'h' then simple .hold
  else if c = 'H' then simple .addHold
  else if c = 'g' then simple .fetch
  else if c = 'G' then simple .addFetch
  else if c = 'x' then simple .exchange
  else if c = '=' then simple .number
  else if c = 'l' then simple .list
  else if c = 'q' then code true
  else if c = 'Q' then code false
  else if c = 'r' then path .readFile
  else if c = 'w' then path .writeFile
  else if c = 'W' then path .writeFirst
  else if c = 'z' then simple .clear
  else throw ⟨"unknown command: \x60" ++ [c] ++ "'", some r⟩

/-- The commands of a script. -/
def drafts (extended : Bool) (fuel : Nat) (t : Text) : Except Fault (List DraftStep) :=
  match fuel with
  | 0 => .ok []
  | fuel + 1 =>
    match t.dropWhile fun c => isGap c || c = '\n' || c = ';' with
    | [] => .ok []
    | '#' :: r => drafts extended fuel (r.dropWhile (· ≠ '\n'))
    | t => do
      let (selection, r) ← selection extended t
      let r := skipGaps r
      let marks := r.takeWhile fun c => c = '!' || isGap c
      let hasAddress := match selection with
        | .all => false
        | _ => true
      match r.drop marks.length with
      | [] => throw ⟨"missing command", some []⟩
      | '\n' :: s | ';' :: s => throw ⟨"missing command", some s⟩
      | ',' :: s => throw ⟨"unexpected \x60,'", some s⟩
      | '#' :: s =>
        if hasAddress then throw ⟨"comments don't accept any addresses", some s⟩
        else drafts extended fuel (s.dropWhile (· ≠ '\n'))
      | c :: s =>
        let (d, s) ← draft extended hasAddress c s
        let more ← drafts extended fuel s
        return ⟨selection, marks.contains '!', d⟩ :: more

/-- The step behind the end of the block that is open `depth` times in front of step `n`. -/
def blockEnd? (n depth : Nat) : List DraftStep → Option Nat
  | [] => none
  | s :: rest =>
    match s.draft with
    | .opening => blockEnd? (n + 1) (depth + 1) rest
    | .closing => if depth = 0 then some (n + 1) else blockEnd? (n + 1) (depth - 1) rest
    | _ => blockEnd? (n + 1) depth rest

/-- How many blocks are still open, if none is closed that is not open. -/
def openBlocks? (steps : List DraftStep) : Option Nat :=
  steps.foldlM (fun n s => match s.draft with
    | .opening => some (n + 1)
    | .closing => if n = 0 then none else some (n - 1)
    | _ => some n) 0

/-- The steps of a script, whose jumps lead to steps. -/
def steps (ds : List DraftStep) : Except Fault (List Step) :=
  let indexed := (List.range ds.length).zip ds
  let target (name : Text) : Except Fault Nat :=
    if name = [] then .ok ds.length
    else
      match indexed.find? fun (_, s) => match s.draft with | .label l => l = name | _ => false with
      | some (n, _) => .ok n
      | none => .error ⟨"can't find label for jump to \x60" ++ name ++ "'", none⟩
  indexed.mapM fun (n, s) => do
    let action ← match s.draft with
      | .done a => pure a
      | .label _ | .closing => pure .nothing
      | .opening => pure (.open_ ((blockEnd? (n + 1) 0 (ds.drop (n + 1))).getD ds.length))
      | .jump kind name => do
        let n ← target name
        pure (if kind = 'b' then .jump n else .jumpIf (kind = 't') n)
    return ⟨s.selection, s.negated, action⟩

/-- Reads a script. -/
def script (extended : Bool) (t : Text) : Except Fault (List Step) := do
  let ds ← drafts extended (t.length + 1) t
  match openBlocks? ds with
  | none => throw ⟨"unexpected \x60\x7d'", some []⟩
  | some (_ + 1) => throw ⟨"unmatched \x60\x7b'", some t⟩
  | some 0 => steps ds

end SchemaDrift.Edit
