import SchemaDrift.Posix.Text.CharSet

namespace SchemaDrift

/-- A regular expression. -/
inductive Expression where
  | empty
  | char (c : Char)
  | any
  | set (s : CharSet)
  | seq (a b : Expression)
  | either (a b : Expression)
  /-- At least `least` times, and not more often than `most` if that is given. -/
  | repeated (a : Expression) (least : Nat) (most : Option Nat)
  | group (number : Nat) (a : Expression)
  /-- What a group has covered. -/
  | back (number : Nat)
  | start
  | stop
  /-- The start of a word, its end, either of them, or neither. -/
  | wordStart
  | wordStop
  | wordEdge
  | noWordEdge
  deriving Repr

/-- How expressions are written. In the basic form most signs have a backslash in front. In the lenient one of the
extended forms, a sign that makes no sense where it stands means itself or nothing. -/
inductive ExpressionForm where
  | basic
  | extended
  | lenient
  deriving DecidableEq, Repr

def ExpressionForm.isExtended (f : ExpressionForm) : Bool := f ≠ .basic

/-- Why a text is no regular expression. -/
inductive ExpressionFault where
  | openSet
  /-- The text ends where a set starts. -/
  | missingSet
  | unknownClass
  | descendingRange
  /-- A class stands in no set. -/
  | bareClass
  | openGroup
  | closedGroup
  | openBrace
  | badBrace
  | nothingToRepeat
  | backslash
  | noGroup
  deriving DecidableEq, Repr

def ExpressionFault.message : ExpressionFault → Text
  | .missingSet => "Invalid regular expression"
  | .openSet => "Unmatched [, [^, [:, [., or [="
  | .unknownClass => "Invalid character class name"
  | .descendingRange => "Invalid range end"
  | .bareClass => "character class syntax is [[:space:]], not [:space:]"
  | .openGroup => "Unmatched ( or \\("
  | .closedGroup => "Unmatched ) or \\)"
  | .openBrace => "Unmatched \\\x7b"
  | .badBrace => "Invalid content of \\\x7b\\\x7d"
  | .nothingToRepeat => "Invalid preceding regular expression"
  | .backslash => "Trailing backslash"
  | .noGroup => "Invalid back reference"

namespace Expression

def isWordChar (c : Char) : Bool := c.isAlphanum || c = '_'

/-- A sign of a regular expression. -/
inductive Sign where
  | literal (c : Char)
  | any
  | set (s : CharSet)
  | opening
  | closing
  | bar
  | times (least : Nat) (most : Option Nat)
  | back (n : Nat)
  | caret
  | dollar
  | assertion (e : Expression)

/-- The class that a letter behind a backslash means. -/
def classFor? (c : Char) : Option CharSet :=
  let word : List CharClass := [.named "alnum", .range '_' '_']
  if c = 'w' then some ⟨false, word⟩
  else if c = 'W' then some ⟨true, word⟩
  else if c = 's' then some ⟨false, [.named "space"]⟩
  else if c = 'S' then some ⟨true, [.named "space"]⟩
  else none

def assertionFor? (c : Char) : Option Expression :=
  if c = '<' then some .wordStart
  else if c = '>' then some .wordStop
  else if c = 'b' then some .wordEdge
  else if c = 'B' then some .noWordEdge
  else if c = '\x60' then some .start
  else if c = '\'' then some .stop
  else none

/-- The bounds behind an opening brace, up to what closes it. -/
def bounds? (extended : Bool) (t : Text) : Except ExpressionFault ((Nat × Option Nat) × Text) :=
  let value (ds : Text) : Nat := ds.foldl (fun n c => 10 * n + (c.toNat - 48)) 0
  let low := t.takeWhile Char.isDigit
  let r := t.drop low.length
  let (high, r) : Option Nat × Text := match r with
    | ',' :: r =>
      let ds := r.takeWhile Char.isDigit
      (if ds = [] then none else some (value ds), r.drop ds.length)
    | r => (some (value low), r)
  let closing : Text := if extended then "\x7d" else "\\\x7d"
  match Text.dropStart? closing r with
  | some rest =>
    if low = [] ∧ high.isNone ∨ high.any (· < value low) then .error .badBrace else .ok ((value low, high), rest)
  | none => .error (if r.any fun c => c = '\x7d' then .badBrace else .openBrace)

/-- The sign at the front of an expression, and the text behind it; `first` tells that nothing to repeat
stands in front of it. -/
def sign (form : ExpressionForm) (first : Bool) (c : Char) (r : Text) : Except ExpressionFault (Sign × Text) :=
  let extended := form.isExtended
  let times (least : Nat) (most : Option Nat) : Except ExpressionFault (Sign × Text) := .ok (.times least most, r)
  if c = '\\' then
    match r with
    | [] => .error .backslash
    | e :: s =>
      if !extended ∧ e = '(' then .ok (.opening, s)
      else if !extended ∧ e = ')' then .ok (.closing, s)
      else if !extended ∧ e = '|' then .ok (.bar, s)
      else if !extended ∧ !first ∧ e = '+' then .ok (.times 1 none, s)
      else if !extended ∧ !first ∧ e = '?' then .ok (.times 0 (some 1), s)
      else if !extended ∧ e = '\x7b' then
        if first ∧ (bounds? extended s).isOk then .error .nothingToRepeat
        else (bounds? extended s).map fun ((a, b), s) => (.times a b, s)
      else if '1' ≤ e ∧ e ≤ '9' then .ok (.back (e.toNat - 48), s)
      else if e = 'n' then .ok (.literal '\n', s)
      else if e = 't' then .ok (.literal '\t', s)
      else
        match classFor? e, assertionFor? e with
        | some k, _ => .ok (.set k, s)
        | none, some a => .ok (.assertion a, s)
        | none, none => .ok (.literal e, s)
  else if c = '.' then .ok (.any, r)
  else if c = '[' then
    match CharSet.read? ['^'] (r.map (⟨·, false⟩)) with
    | some (k, rest) =>
      let written := r.take (r.length - rest.length)
      if !k.namesAreKnown then .error .unknownClass
      else if !k.rangesAscend then .error .descendingRange
      else if written.head? = some ':' ∧ written.length > 2 ∧ written.dropLast.getLast? = some ':' then .error .bareClass
      else .ok (.set k, r.drop written.length)
    | none => .error (if r = [] ∨ r = "^" then .missingSet else .openSet)
  else if first && (c = '*' || extended && (c = '+' || c = '?')) then
    match form with
    | .basic => .ok (.literal c, r)
    | .extended => .error .nothingToRepeat
    | .lenient => .ok (.assertion .empty, r)
  else if c = '*' then times 0 none
  else if c = '^' then .ok (if extended || first then .caret else .literal '^', r)
  else if c = '$' then
    let isLast := r = [] || (Text.dropStart? "\\)" r).isSome || (Text.dropStart? "\\|" r).isSome
    .ok (if extended || isLast then .dollar else .literal '$', r)
  else if extended ∧ c = '(' then .ok (.opening, r)
  else if extended ∧ c = ')' then .ok (.closing, r)
  else if extended ∧ c = '|' then .ok (.bar, r)
  else if extended ∧ c = '+' then times 1 none
  else if extended ∧ c = '?' then times 0 (some 1)
  else if extended ∧ c = '\x7b' ∧ !first then
    match bounds? extended r with
    | .ok ((a, b), s) => .ok (.times a b, s)
    | .error f =>
      let isWhole := (r.takeWhile fun x => x ≠ '\x7d').all fun x => x.isDigit || x = ','
      if form = .lenient ∧ !(r.contains '\x7d' && isWhole) then .ok (.literal c, r) else .error f
  else .ok (.literal c, r)

/-- The parts read so far of an expression: the groups that are open, each with what stands in front of
its last bar and the parts behind it, last part first; and how many groups there have been. -/
structure Reading where
  open_ : List (Option Expression × List Expression × Nat) := [(none, [], 0)]
  groups : Nat := 0

def sequence (parts : List Expression) : Expression :=
  parts.reverse.foldr (fun a b => match b with | .empty => a | b => .seq a b) .empty

/-- The expression that an open group has come to. -/
def closed (g : Option Expression × List Expression × Nat) : Expression :=
  match g with
  | (none, parts, _) => sequence parts
  | (some a, parts, _) => .either a (sequence parts)

/-- Reads an expression on; `first` tells that nothing to repeat stands in front. -/
def readOnto (form : ExpressionForm) (fuel : Nat) (s : Reading) (first : Bool) (t : Text) : Except ExpressionFault Expression :=
  match fuel with
  | 0 => .error .backslash
  | fuel + 1 =>
    match t with
    | [] =>
      match s.open_ with
      | [g] => .ok (closed g)
      | _ => .error .openGroup
    | c :: r => do
      let (k, r) ← sign form first c r
      let part (e : Expression) (first : Bool) : Except ExpressionFault Expression :=
        match s.open_ with
        | (a, parts, n) :: gs => readOnto form fuel { s with open_ := (a, e :: parts, n) :: gs } first r
        | [] => .error .closedGroup
      match k with
      | .literal c => part (.char c) false
      | .any => part .any false
      | .set k => part (.set k) false
      | .assertion e => part e false
      | .caret => part .start true
      | .dollar => part .stop (!form.isExtended)
      | .back n => if n ≤ s.groups then part (.back n) false else .error .noGroup
      | .opening =>
        readOnto form fuel { open_ := (none, [], s.groups + 1) :: s.open_, groups := s.groups + 1 } true r
      | .closing =>
        match s.open_ with
        | g :: (a, parts, n) :: gs =>
          readOnto form fuel { s with open_ := (a, .group g.2.2 (closed g) :: parts, n) :: gs } false r
        | _ => if form = .lenient then part (.char ')') false else .error .closedGroup
      | .bar =>
        match s.open_ with
        | g :: gs => readOnto form fuel { s with open_ := (some (closed g), [], g.2.2) :: gs } true r
        | [] => .error .closedGroup
      | .times a b =>
        match s.open_ with
        | (alt, e :: parts, n) :: gs =>
          readOnto form fuel { s with open_ := (alt, .repeated e a b :: parts, n) :: gs } false r
        | _ => .error .nothingToRepeat

/-- Reads a basic or an extended expression. -/
def read (form : ExpressionForm) (t : Text) : Except ExpressionFault Expression :=
  readOnto form (t.length + 1) {} true t

def hasBack : Expression → Bool
  | .back _ => true
  | .seq a b | .either a b => a.hasBack || b.hasBack
  | .repeated a _ _ | .group _ a => a.hasBack
  | _ => false

def size : Expression → Nat
  | .seq a b | .either a b => a.size + b.size + 1
  | .repeated a n _ => a.size + n + 1
  | .group _ a => a.size + 1
  | _ => 1

/-- How a text is searched. -/
structure Mode where
  /-- Upper and lower case are one. -/
  folds : Bool := false
  /-- Lines start and end at line breaks too. -/
  linewise : Bool := false
  deriving DecidableEq, Repr

/-- Whether the place in front of `rest`, behind `before`, is where an assertion holds. -/
def holdsAt (m : Mode) (before : Option Char) (rest : Text) : Expression → Bool
  | .start => before.isNone || m.linewise && before = some '\n'
  | .stop => rest = [] || m.linewise && rest.head? = some '\n'
  | .wordStart => !before.any isWordChar && rest.head?.any isWordChar
  | .wordStop => before.any isWordChar && !rest.head?.any isWordChar
  | .wordEdge => before.any isWordChar ≠ rest.head?.any isWordChar
  | .noWordEdge => before.any isWordChar = rest.head?.any isWordChar
  | _ => true

/-- Whether an expression for one character covers it. -/
def coversChar (m : Mode) (c : Char) : Expression → Bool
  | .char a => a = c || m.folds && a.toLower = c.toLower
  | .any => true
  | .set s => s.contains c || m.folds && (s.contains c.toLower || s.contains c.toUpper)
  | _ => false

/-- A place in a text: how far it is, what stands in front of it, and what behind. -/
structure Place where
  offset : Nat
  before : Option Char
  rest : Text

def Place.next (p : Place) : Place := ⟨p.offset + 1, p.rest.head?, p.rest.tail⟩

def Place.skip (p : Place) : Nat → Place
  | 0 => p
  | n + 1 => p.next.skip n

/-- The places in a list, each only once. -/
def distinct (ps : List Place) : List Place :=
  (ps.foldl (fun (out : List Place) p => if out.any (·.offset = p.offset) then out else p :: out) []).reverse

/-- The places that an expression may end at which starts at one of these; groups are not looked back at. -/
def ends (m : Mode) (fuel : Nat) (e : Expression) (ps : List Place) : List Place :=
  match fuel with
  | 0 => []
  | fuel + 1 =>
    match e with
    | .empty => ps
    | .char _ | .any | .set _ =>
      (ps.filter fun p => p.rest.head?.any fun c => coversChar m c e).map Place.next
    | .seq a b => ends m fuel b (ends m fuel a ps)
    | .either a b => distinct (ends m fuel a ps ++ ends m fuel b ps)
    | .group _ a => ends m fuel a ps
    | .back _ => []
    | .repeated a (least + 1) most => ends m fuel (.repeated a least (most.map (· - 1))) (ends m fuel a ps)
    | .repeated _ 0 (some 0) => ps
    | .repeated a 0 most =>
      let fresh := (ends m fuel a ps).filter fun p => !ps.any (·.offset = p.offset)
      if fresh.isEmpty then ps else distinct (ps ++ ends m fuel (.repeated a 0 (most.map (· - 1))) fresh)
    | e => ps.filter fun p => holdsAt m p.before p.rest e

/-- What groups have covered. -/
abbrev Groups := List (Nat × Text)

/-- The first way, the greediest one first, in which an expression covers the text at a place and `accepts` what follows. -/
def way? (m : Mode) (fuel : Nat) (e : Expression) (p : Place) (gs : Groups)
    (accepts : Place → Groups → Option (Nat × Groups)) : Option (Nat × Groups) :=
  match fuel with
  | 0 => none
  | fuel + 1 =>
    match e with
    | .empty => accepts p gs
    | .char _ | .any | .set _ =>
      if p.rest.head?.any fun c => coversChar m c e then accepts p.next gs else none
    | .seq a b => way? m fuel a p gs fun p gs => way? m fuel b p gs accepts
    | .either a b => (way? m fuel a p gs accepts).or (way? m fuel b p gs accepts)
    | .group n a =>
      way? m fuel a p gs fun q gs => accepts q ((n, p.rest.take (q.offset - p.offset)) :: gs)
    | .back n =>
      match gs.lookup n with
      | none => none
      | some t =>
        let here := p.rest.take t.length
        if here = t ∨ m.folds ∧ here.map Char.toLower = t.map Char.toLower then accepts (p.skip t.length) gs else none
    | .repeated a (least + 1) most =>
      way? m fuel a p gs fun p gs => way? m fuel (.repeated a least (most.map (· - 1))) p gs accepts
    | .repeated _ 0 (some 0) => accepts p gs
    | .repeated a 0 most =>
      (way? m fuel a p gs fun q gs =>
        if q.offset = p.offset then none else way? m fuel (.repeated a 0 (most.map (· - 1))) q gs accepts).or (accepts p gs)
    | e => if holdsAt m p.before p.rest e then accepts p gs else none

/-- A place that an expression covers: where it starts and ends, and what its groups have covered. -/
structure Hit where
  start : Nat
  stop : Nat
  groups : Groups
  deriving Repr

/-- The longest part at a place that an expression covers. -/
def hitAt? (m : Mode) (e : Expression) (p : Place) : Option Hit :=
  let fuel := (e.size + 4) * (p.rest.length + 4)
  let found (accepts : Place → Groups → Option (Nat × Groups)) : Option Hit :=
    (way? m fuel e p [] accepts).map fun (n, gs) => ⟨p.offset, n, gs⟩
  if e.hasBack then found fun q gs => some (q.offset, gs)
  else
    match ends m fuel e [p] with
    | [] => none
    | q :: qs =>
      let longest := (qs.map Place.offset).foldl max q.offset
      found fun q gs => if q.offset = longest then some (q.offset, gs) else none

/-- The first place from `p` on that an expression covers; `tries` exceeds the length of the text. -/
def search? (m : Mode) (e : Expression) (tries : Nat) (p : Place) : Option Hit :=
  match tries with
  | 0 => none
  | tries + 1 =>
    match hitAt? m e p with
    | some h => some h
    | none => if p.rest = [] then none else search? m e tries p.next

/-- The first place in a text that an expression covers. -/
def find? (m : Mode) (e : Expression) (t : Text) : Option Hit := search? m e (t.length + 1) ⟨0, none, t⟩

/-- The places in a text that an expression covers, one behind the other; an empty one does not follow
directly on another. -/
def findAll (m : Mode) (e : Expression) (fuel : Nat) (last : Option Nat) (p : Place) : List Hit :=
  match fuel with
  | 0 => []
  | fuel + 1 =>
    match search? m e (p.rest.length + 1) p with
    | none => []
    | some h =>
      let at_ := p.skip (h.stop - p.offset)
      if h.stop = h.start then
        let more := if at_.rest = [] then [] else findAll m e fuel none at_.next
        if last = some h.stop then more else h :: more
      else h :: findAll m e fuel (some h.stop) at_

def hits (m : Mode) (e : Expression) (t : Text) : List Hit := findAll m e (t.length + 2) none ⟨0, none, t⟩

end Expression
end SchemaDrift
