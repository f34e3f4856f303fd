import SchemaDrift.Server.Percent

namespace SchemaDrift.Toml

def isSpace (c : Char) : Bool := c = ' ' || c = '\t'

/-- A character that may stand in a comment or a text: no control but the tab. -/
def isVisible (c : Char) : Bool := c = '\t' || (0x20 ≤ c.toNat && c.toNat ≠ 0x7F)

def skipSpaces (t : Text) : Text := t.dropWhile isSpace

/-- The text behind a line break. -/
def afterBreak? : Text → Option Text
  | '\n' :: r => some r
  | '\r' :: '\n' :: r => some r
  | _ => none

/-- The character that so many hexadecimal digits at the front name, and the text behind them. -/
def codePoint? (digits : Nat) (t : Text) : Option (Char × Text) := do
  let ds := t.take digits
  if ds.length < digits then none
  else
    let n := (← ds.mapM Percent.hexValue?).foldl (16 * · + ·) 0
    if n.isValidChar then some (Char.ofNat n, t.drop digits) else none

/-- The character an escape behind its backslash stands for. -/
def escape? : Text → Option (Char × Text)
  | 'u' :: r => codePoint? 4 r
  | 'U' :: r => codePoint? 8 r
  | c :: r =>
    ([('b', '\x08'), ('t', '\t'), ('n', '\n'), ('f', '\x0c'), ('r', '\r'), ('"', '"'), ('\\', '\\')].lookup c).map
      fun d => (d, r)
  | [] => none

/-- The rest of a basic text on one line. -/
def basic (fuel : Nat) (t : Text) : Option (Text × Text) :=
  match fuel with
  | 0 => none
  | fuel + 1 =>
    match t with
    | '"' :: r => some ([], r)
    | '\\' :: r => do
      let (c, r) ← escape? r
      let (cs, r) ← basic fuel r
      return (c :: cs, r)
    | c :: r => if isVisible c then (basic fuel r).map fun (cs, r) => (c :: cs, r) else none
    | [] => none

/-- The rest of a literal text on one line. -/
def literal (t : Text) : Option (Text × Text) := do
  let (cs, r) ← Text.cutAt? '\'' t
  if cs.all isVisible then some (cs, r) else none

/-- The text behind the line break, blanks and further breaks that a backslash at the end of a line skips. -/
def afterFold? (t : Text) : Option Text :=
  (afterBreak? (skipSpaces t)).map (skipFold (t.length + 1))
where
  skipFold (fuel : Nat) (t : Text) : Text :=
    match fuel with
    | 0 => t
    | fuel + 1 =>
      match afterBreak? (skipSpaces t) with
      | some r => skipFold fuel r
      | none => skipSpaces t

/-- The rest of a text over several lines. Three marks end it, and up to two more in front of these
belong to it; `folds` says whether backslashes mean anything. -/
def multiLine (mark : Char) (folds : Bool) (fuel : Nat) (t : Text) : Option (Text × Text) :=
  match fuel with
  | 0 => none
  | fuel + 1 =>
    match t with
    | [] => none
    | c :: r =>
      let go (front : Text) (r : Text) : Option (Text × Text) :=
        (multiLine mark folds fuel r).map fun (cs, r) => (front ++ cs, r)
      if c = mark then
        let marks := t.takeWhile (· = mark)
        let n := min marks.length 5
        if 3 ≤ n then some (List.replicate (n - 3) mark, t.drop n) else go marks (t.drop marks.length)
      else if c = '\\' && folds then
        match afterFold? r with
        | some r => go [] r
        | none => (escape? r).bind fun (d, r) => go [d] r
      else
        match afterBreak? t with
        | some r => go ['\n'] r
        | none => if isVisible c then go [c] r else none

/-- The quoted text at the front of a text, and what follows it. -/
def quoted? (t : Text) : Option (Text × Text) :=
  let open? (mark : Char) : Option Text :=
    (Text.dropStart? [mark, mark, mark] t).map fun r => (afterBreak? r).getD r
  match t with
  | '"' :: r =>
    match open? '"' with
    | some r => multiLine '"' true (r.length + 1) r
    | none => basic (r.length + 1) r
  | '\'' :: r =>
    match open? '\'' with
    | some r => multiLine '\'' false (r.length + 1) r
    | none => literal r
  | _ => none

def isBareKeyChar (c : Char) : Bool := c.isAlphanum || c = '_' || c = '-'

/-- One part of a key: bare, or quoted on one line. -/
def keyPart? (t : Text) : Option (Text × Text) :=
  match t with
  | '"' :: r => basic (r.length + 1) r
  | '\'' :: r => literal r
  | t =>
    let bare := t.takeWhile isBareKeyChar
    if bare = [] then none else some (bare, t.dropWhile isBareKeyChar)

/-- The parts of a key, which dots part. -/
def keyParts (fuel : Nat) (t : Text) : Option (List Text × Text) :=
  match fuel with
  | 0 => none
  | fuel + 1 => do
    let (part, r) ← keyPart? (skipSpaces t)
    match skipSpaces r with
    | '.' :: r => do
      let (parts, r) ← keyParts fuel r
      return (part :: parts, r)
    | r => some ([part], r)

/-- The depth that neither the parts of a key nor values inside values may reach. -/
def depthLimit : Nat := 80

/-- A key: the parts in front of its last one, and that one. -/
def key? (t : Text) : Option (List Text × Text × Text) := do
  let (parts, r) ← keyParts (t.length + 1) t
  if depthLimit ≤ parts.length then none
  else (parts.getLast?).map fun last => (parts.dropLast, last, r)

end SchemaDrift.Toml
