import SchemaDrift.Posix.Shell.Brace
import SchemaDrift.Posix.Shell.Lexeme
import SchemaDrift.Posix.Text.Escape

namespace SchemaDrift.Shell

/-- What reading the front of a text comes to: a fragment and the text behind it, or a fault. -/
abbrev FragmentRead : Type := Except SyntaxFault (Fragment × Text)

abbrev WordRead : Type := Except SyntaxFault (Word × Text)

abbrev CommandRead : Type := Except SyntaxFault (Command × Text)

/-- The fault of the token at the front of a text, of which another one may have been expected. -/
def unexpected (d : Dialect) (expected : Option Token) (t : Text) : SyntaxFault :=
  let token := Token.front d t
  let written : Text := match token with
    | .mark m => m
    | .newline => ['\n']
    | .redirection => t.takeWhile fun c => c = '<' || c = '>'
    | .endOfText => []
    | .word | .keyword _ => frontWord t
  .unexpected token expected written (t.drop written.length)

/-- The same fault where no keyword counts. -/
def unexpectedWord (d : Dialect) (expected : Option Token) (t : Text) : SyntaxFault :=
  match unexpected d expected t with
  | .unexpected (.keyword _) e written rest => .unexpected .word e written rest
  | f => f

/-- The text behind a token that has to be in front. -/
def expect (d : Dialect) (token : Token) (t : Text) : Except SyntaxFault Text :=
  let t := skipBlanks false t
  if Token.front d t = token then
    match token with
    | .mark m | .keyword m => .ok (t.drop m.length)
    | _ => .ok t
  else .error (unexpected d (some token) t)

def expectMark (d : Dialect) (mark t : Text) : Except SyntaxFault Text := expect d (.mark mark) t

def expectKeyword (d : Dialect) (name t : Text) : Except SyntaxFault Text := expect d (.keyword name) t

/-- What a reading without fuel comes to. -/
def tooDeep {α : Type} (t : Text) : Except SyntaxFault (α × Text) := .error (.unexpected .endOfText none [] t)

/-- The commands that no script may define. -/
def specialNames : List Text :=
  [".", ":", "break", "continue", "eval", "exec", "exit", "export", "readonly", "return", "set", "shift", "times",
    "trap", "unset"]

/-- Whether a word may be the name of a command that a script defines. -/
def definable? (d : Dialect) (w : Word) : Option Text :=
  match w with
  | [.literal t false] => if d = .bash ∨ isName t ∧ !specialNames.contains t then some t else none
  | _ => none

/-- What stands in front of the value in an assignment: the name, whether an index in brackets follows,
and the text behind. -/
def assignmentHead? (d : Dialect) (t : Text) : Option (Text × Bool × Text) :=
  let name := t.takeWhile isNameChar
  let rest := t.drop name.length
  if !isName name then none
  else
    match rest with
    | '=' :: _ => some (name, false, rest)
    | '+' :: '=' :: _ => if d = .bash then some (name, false, rest) else none
    | '[' :: r =>
      let behind := (r.dropWhile fun c => c ≠ ']' && c ≠ '\n').drop 1
      let isSet := (Text.dropStart? "=" behind).isSome || (Text.dropStart? "+=" behind).isSome
      if d = .bash ∧ isSet then some (name, true, r) else none
    | _ => none

/-- The texts that may stand in the place of one sign between double brackets. -/
def unaryOperators : List Text :=
  ["-a", "-b", "-c", "-d", "-e", "-f", "-g", "-h", "-k", "-n", "-o", "-p", "-r", "-s", "-t", "-u", "-v", "-w", "-x",
    "-z", "-G", "-L", "-N", "-O", "-S"].map String.toList

/-- The builtins whose arguments may be assignments of lists. -/
def declaring : List Text := ["declare", "local", "readonly", "export", "typeset"]

def isDeclaring (ws : List Word) : Bool :=
  match ws.getLast? with
  | some [.literal t false] => declaring.contains t
  | _ => false

mutual

/-- What a dollar sign introduces, and the text behind it. -/
def dollar (fuel : Nat) (d : Dialect) (last : Nat) (quoted : Bool) (t : Text) : FragmentRead :=
  match fuel with
  | 0 => tooDeep t
  | fuel + 1 =>
    let captured (t : Text) : FragmentRead := do
      let (c, r) ← list fuel d last true t
      if r = [] then .error (.unclosed .bracket t r) else return (.captured c quoted, ← expectMark d ")" r)
    match t with
    | '(' :: '(' :: r =>
      match sum fuel d last 0 r with
      | .ok (w, r) => .ok (.calculated w quoted, r)
      | .error f => if d = .bash then (captured ('(' :: r)).mapError fun _ => f else .error f
    | '(' :: r => captured r
    | '\x7b' :: r => do
      let (f, rest) ← expansion fuel d last quoted r
      match f with
      | .parameter name part (.unknown _) quoted =>
        return (.parameter name part (.unknown ('\x7b' :: r.take (r.length - rest.length))) quoted, rest)
      | f => return (f, rest)
    | t =>
      match parameterName? t with
      | some (name, r) => .ok (.parameter name .whole .value quoted, r)
      | none => .ok (.literal ['$'] quoted, t)

/-- The parameter behind an opening brace, and the text behind the closing one. -/
def expansion (fuel : Nat) (d : Dialect) (last : Nat) (quoted : Bool) (t : Text) : FragmentRead :=
  match fuel with
  | 0 => tooDeep t
  | fuel + 1 =>
    let isBash := d = .bash
    let subscript (r : Text) : Except SyntaxFault (Subscript × Text) :=
      match r with
      | '[' :: c :: ']' :: s =>
        if isBash ∧ (c = '@' ∨ c = '*') then .ok (.all (c = '*'), s)
        else if isBash then .ok (.element [.literal [c] true], s)
        else .ok (.whole, r)
      | '[' :: s =>
        if isBash then do
          let (w, s) ← inside fuel d last (some ']') s
          return (.element w, s)
        else .ok (.whole, r)
      | r => .ok (.whole, r)
    let closed (name : Text) (part : Subscript) (use : ParameterUse) (r : Text) : FragmentRead :=
      match r with
      | '\x7d' :: r => .ok (.parameter name part use quoted, r)
      | r => do
        let (_, r) ← braced fuel d last quoted r
        return (.parameter name part (.unknown []) quoted, r)
    let trimmed (name : Text) (part : Subscript) (front : Bool) (mark : Char) (r : Text) : FragmentRead := do
      let longest := r.head? = some mark
      let (w, r) ← word fuel d last (· = '\x7d') (if longest then r.drop 1 else r)
      closed name part (.valueWithout front longest w) r
    let cased (name : Text) (part : Subscript) (upper : Bool) (mark : Char) (r : Text) : FragmentRead :=
      let all := r.head? = some mark
      closed name part (.cased upper all) (if all then r.drop 1 else r)
    let withWord (name : Text) (part : Subscript) (use : Word → ParameterUse) (r : Text) :
        FragmentRead := do
      let (w, r) ← braced fuel d last quoted r
      return (.parameter name part (use w) quoted, r)
    match t with
    | '#' :: '\x7d' :: r => .ok (.parameter "#" .whole .value quoted, r)
    | '!' :: r =>
      if isBash ∧ r.head?.any isNameStart then do
        let (name, r) := (r.takeWhile isNameChar, r.dropWhile isNameChar)
        let (part, r) ← subscript r
        let use : ParameterUse := match part with
          | .all _ => .indices
          | _ => .indirect
        closed name part use r
      else if isBash ∧ r.head? = some '#' then closed "#" .whole .indirect (r.drop 1)
      else closed "!" .whole .value r
    | '#' :: c :: r =>
      if isNameChar c ∨ (['@', '*', '?', '$', '-', '!', '#'].contains c ∧ r.head? = some '\x7d') then
        match bracedName? (c :: r) with
        | some (name, r) => do
          let (part, r) ← subscript r
          closed name part .length r
        | none => closed "#" .whole .value (c :: r)
      else if c = '#' ∨ c = '%' then trimmed "#" .whole (c = '#') c r
      else closed "#" .whole .value (c :: r)
    | t =>
      match bracedName? t with
      | none => do
        let (_, r) ← braced fuel d last quoted t
        return (.parameter [] .whole (.unknown []) quoted, r)
      | some (name, r) => do
        let (part, r) ← subscript r
        match r with
        | ':' :: '-' :: r => withWord name part (.valueOr true) r
        | ':' :: '+' :: r => withWord name part (.wordIf true) r
        | ':' :: '=' :: r => withWord name part (.assigned true) r
        | ':' :: '?' :: r => withWord name part (.demanded true) r
        | '-' :: r => withWord name part (.valueOr false) r
        | '+' :: r => withWord name part (.wordIf false) r
        | '=' :: r => withWord name part (.assigned false) r
        | '?' :: r => withWord name part (.demanded false) r
        | '#' :: r => trimmed name part true '#' r
        | '%' :: r => trimmed name part false '%' r
        | ':' :: r =>
          if isBash then do
            let (start, r) ← slicePart fuel d last 0 r
            match r with
            | ':' :: r => do
              let (size, r) ← slicePart fuel d last 0 r
              closed name part (.slice start (some size)) r
            | r => closed name part (.slice start none) r
          else closed name part .value (':' :: r)
        | '/' :: r =>
          if isBash then do
            let everywhere := r.head? = some '/'
            let r := if everywhere then r.drop 1 else r
            let anchor : Anchor :=
              if everywhere then .anywhere
              else if r.head? = some '#' then .front
              else if r.head? = some '%' then .back
              else .anywhere
            let r := if anchor = .anywhere then r else r.drop 1
            let (p, r) ← word fuel d last (fun c => c = '/' || c = '\x7d') r
            match r with
            | '/' :: r => do
              let (w, r) ← word fuel d last (· = '\x7d') r
              closed name part (.replaced everywhere anchor p w) r
            | r => closed name part (.replaced everywhere anchor p []) r
          else closed name part .value ('/' :: r)
        | '^' :: r => if isBash then cased name part true '^' r else closed name part .value ('^' :: r)
        | ',' :: r => if isBash then cased name part false ',' r else closed name part .value (',' :: r)
        | '@' :: c :: r =>
          if isBash ∧ c = 'Q' then closed name part .requoted r
          else if isBash ∧ c = 'U' then closed name part (.cased true true) r
          else if isBash ∧ c = 'u' then closed name part (.cased true false) r
          else if isBash ∧ c = 'L' then closed name part (.cased false true) r
          else closed name part .value ('@' :: c :: r)
        | [] => .error (.unclosed (if quoted then .quote '"' else .brace) t [])
        | r => closed name part .value r

/-- An expression up to a colon or a closing brace that is in no brackets. -/
def slicePart (fuel : Nat) (d : Dialect) (last depth : Nat) (t : Text) : WordRead :=
  match fuel with
  | 0 => tooDeep t
  | fuel + 1 =>
    let behind (depth : Nat) (f : Fragment) (r : Text) : WordRead :=
      (slicePart fuel d last depth r).map fun (w, r) => (f :: w, r)
    match t with
    | [] => .error (.unclosed .brace t [])
    | '$' :: r => do
      let (f, r) ← dollar fuel d last true r
      behind depth f r
    | c :: r =>
      if depth = 0 ∧ (c = ':' ∨ c = '\x7d') then .ok ([], c :: r)
      else if c = '(' then behind (depth + 1) (.literal [c] true) r
      else if c = ')' then behind (depth - 1) (.literal [c] true) r
      else behind depth (.literal [c] true) r

/-- A word that a closing brace ends. -/
def braced (fuel : Nat) (d : Dialect) (last : Nat) (quoted : Bool) (t : Text) : WordRead :=
  match fuel with
  | 0 => tooDeep t
  | fuel + 1 =>
    if quoted then inside fuel d last (some '\x7d') t
    else do
      let (w, r) ← word fuel d last (fun c => c = '\x7d' || d = .dash && c = '\n') t
      match r with
      | '\x7d' :: r => return (w, r)
      | r => .error (.unclosed .brace t r)

/-- An expression up to two closing brackets; `depth` brackets in it are open. -/
def sum (fuel : Nat) (d : Dialect) (last depth : Nat) (t : Text) : WordRead :=
  match fuel with
  | 0 => tooDeep t
  | fuel + 1 =>
    let behind (depth : Nat) (f : Fragment) (r : Text) : WordRead :=
      (sum fuel d last depth r).map fun (w, r) => (f :: w, r)
    match t with
    | [] => .error (.unclosed .brackets t [])
    | '\\' :: '\n' :: r => sum fuel d last depth r
    | '\\' :: c :: r => behind depth (.literal (unquotedEscape none c) true) r
    | '"' :: r => sum fuel d last depth r
    | '$' :: r => do
      let (f, r) ← dollar fuel d last true r
      behind depth f r
    | '\x60' :: r => do
      let (f, r) ← backquote fuel d last true r
      behind depth f r
    | '(' :: r => behind (depth + 1) (.literal ['('] true) r
    | ')' :: r =>
      if depth = 0 then
        match r with
        | ')' :: r => .ok ([], r)
        | r => if d = .bash then .error (.unclosed .brackets t r) else behind 0 (.literal [')'] true) r
      else behind (depth - 1) (.literal [')'] true) r
    | c :: r =>
      let isPlain (c : Char) : Bool := !(['\\', '"', '$', '\x60', '(', ')'].contains c)
      behind depth (.literal (c :: r.takeWhile isPlain) true) (r.dropWhile isPlain)

/-- The command between backquotes, and the text behind it. -/
def backquote (fuel : Nat) (d : Dialect) (last : Nat) (quoted : Bool) (t : Text) : FragmentRead :=
  match fuel with
  | 0 => tooDeep t
  | fuel + 1 =>
    match backquoted quoted t with
    | none => .error (.unclosed .backquote t [])
    | some (inner, r) => do
      let first := if d = .dash then 1 else lineOf last t
      let (c, _) ← list fuel d (first + inner.count '\n') true inner
      return (.captured c quoted, r)

/-- What is between double quotes, or up to the end if nothing closes it, and the text behind it. -/
def inside (fuel : Nat) (d : Dialect) (last : Nat) (closing : Option Char) (t : Text) : WordRead :=
  match fuel with
  | 0 => tooDeep t
  | fuel + 1 =>
    let behind (f : Fragment) (r : Text) : WordRead :=
      (inside fuel d last closing r).map fun (fs, r) => (f :: fs, r)
    match t with
    | [] =>
      match closing with
      | none => .ok ([], [])
      | some ']' => .error (.unclosed .brace t [])
      | some _ => .error (.unclosed (if d = .bash ∧ closing = some '\x7d' then .brace else .quote '"') t [])
    | '\\' :: '\n' :: r => inside fuel d last closing r
    | '\\' :: c :: r => behind (.literal (unquotedEscape closing c) true) r
    | '$' :: r => do
      let (f, r) ← dollar fuel d last true r
      behind f r
    | '\x60' :: r => do
      let (f, r) ← backquote fuel d last true r
      behind f r
    | c :: r =>
      if closing = some c then .ok ([], r)
      else if c = '"' ∧ closing = some '\x7d' then do
        let (w, r) ← inside fuel d last (some '"') r
        (inside fuel d last closing r).map fun (fs, r) => (w ++ fs, r)
      else
        let isPlain (c : Char) : Bool := !(['\\', '$', '\x60', '"'].contains c) && closing ≠ some c
        behind (.literal (c :: r.takeWhile isPlain) true) (r.dropWhile isPlain)

/-- The word at the front of a text and the text behind it. -/
def word (fuel : Nat) (d : Dialect) (last : Nat) (ends : Char → Bool) (t : Text) : WordRead :=
  match fuel with
  | 0 => tooDeep t
  | fuel + 1 =>
    let behind (fs : Word) (r : Text) : WordRead :=
      (word fuel d last ends r).map fun (w, r) => (fs ++ w, r)
    let doubleQuoted (r : Text) : WordRead := do
      let (fs, s) ← (inside fuel d last (some '"') r).mapError fun f => match f with
        | .unclosed (.quote '"') _ rest => .unclosed (.quote '"') r rest
        | f => f
      behind (if fs.isEmpty then [.literal [] true] else fs) s
    match t with
    | [] => .ok ([], [])
    | '\'' :: r =>
      match Text.cutAt? '\'' r with
      | some (a, r) => behind [.literal a true] r
      | none => .error (.unclosed (.quote '\'') r [])
    | '"' :: r => doubleQuoted r
    | '\\' :: '\n' :: r => word fuel d last ends r
    | '\\' :: c :: r => behind [.literal [c] true] r
    | '$' :: '\'' :: r =>
      if d = .bash then
        match Escape.cutAtQuote? r with
        | some (a, r) => behind [.literal (Utf8.decodeLossy (Escape.bytes Escape.quotedForm a)) true] r
        | none => .error (.unclosed (.quote '\'') r [])
      else behind [.literal ['$'] false] ('\'' :: r)
    | '$' :: '"' :: r => if d = .bash then doubleQuoted r else behind [.literal ['$'] false] ('"' :: r)
    | '$' :: r => do
      let (f, r) ← dollar fuel d last false r
      behind [f] r
    | '\x60' :: r => do
      let (f, r) ← backquote fuel d last false r
      behind [f] r
    | c :: r =>
      if ends c then .ok ([], c :: r)
      else
        let isPlain (c : Char) : Bool := !(['\'', '"', '\\', '$', '\x60'].contains c) && !ends c
        behind [.literal (c :: r.takeWhile isPlain) false] (r.dropWhile isPlain)

/-- The redirection at the front of a text, and the text behind it. -/
def redirection (fuel : Nat) (d : Dialect) (last : Nat) (t : Text) : Except SyntaxFault (Redirection × Text) :=
  match fuel with
  | 0 => tooDeep t
  | fuel + 1 =>
    let digits := t.takeWhile Char.isDigit
    let source (default : Nat) : Nat :=
      if digits = [] then default else digits.foldl (fun n c => 10 * n + (c.toNat - 48)) 0
    let behind (make : Word → Redirection) (r : Text) : Except SyntaxFault (Redirection × Text) := do
      let r := skipBlanks false r
      match Token.front d r with
      | .word | .keyword _ => do
        let (w, r) ← word fuel d last endsWord r
        return (make w, r)
      | _ => .error (unexpectedWord d none r)
    let written (tabs : Bool) (r : Text) : Except SyntaxFault (Redirection × Text) := do
      let r := skipBlanks false r
      match Token.front d r with
      | .word | .keyword _ => do
        let raw := frontWord r
        let (body, rest) := cutBody tabs (withoutQuotes raw) (r.drop raw.length)
        if raw.any fun c => c = '\'' || c = '"' || c = '\\' then
          return (.fromText (source 0) [.literal body true], rest)
        else do
          let (w, _) ← inside fuel d (lineOf last r + 1 + body.count '\n') none body
          return (.fromText (source 0) w, rest)
      | _ => .error (unexpectedWord d none r)
    match t.drop digits.length with
    | '&' :: '>' :: '>' :: r => behind (.bothToFile false) r
    | '&' :: '>' :: r => behind (.bothToFile true) r
    | '<' :: '<' :: '<' :: r =>
      if d = .bash then behind (fun w => .fromText (source 0) (w ++ [.literal ['\n'] true])) r
      else .error (unexpectedWord d none ('<' :: r))
    | '<' :: '<' :: '-' :: r => written true r
    | '<' :: '<' :: r => written false r
    | '<' :: '&' :: r => behind (.copy (source 0) true) r
    | '<' :: '>' :: r => behind (.readWrite (source 0)) r
    | '<' :: r => behind (.fromFile (source 0)) r
    | '>' :: '>' :: r => behind (.toFile (source 1) false) r
    | '>' :: '&' :: r =>
      behind (fun w =>
        let isNumber := (plainText? w).any fun t => t = ['-'] || t.all Char.isDigit
        if d = .bash ∧ digits = [] ∧ (plainText? w).isSome ∧ !isNumber then .bothToFile true w
        else .copy (source 1) false w) r
    | '>' :: '|' :: r => behind (.toFile (source 1) true) r
    | '>' :: r => behind (.toFile (source 1) true) r
    | _ => .error (unexpected d none t)

/-- The redirections at the front of a text. -/
def redirections (fuel : Nat) (d : Dialect) (last : Nat) (t : Text) :
    Except SyntaxFault (List Redirection × Text) :=
  match fuel with
  | 0 => tooDeep t
  | fuel + 1 =>
    let t := skipBlanks false t
    if Token.front d t = .redirection then do
      let (r, t) ← redirection fuel d last t
      let (rs, t) ← redirections fuel d last t
      return (r :: rs, t)
    else .ok ([], t)

/-- The values of a list, up to its closing bracket. -/
def elements (fuel : Nat) (d : Dialect) (last : Nat) (t : Text) :
    Except SyntaxFault (List (Option Word × Word) × Text) :=
  match fuel with
  | 0 => tooDeep t
  | fuel + 1 =>
    match skipBreaks false t with
    | [] => .error (.unclosed .list t [])
    | ')' :: r => .ok ([], r)
    | '[' :: r =>
      if (Text.dropStart? "]=" (r.dropWhile fun c => c ≠ ']' && c ≠ '\n')).isSome then do
        let (i, r) ← word fuel d last (· = ']') r
        let (w, r) ← word fuel d last endsWord (r.drop 2)
        let (es, r) ← elements fuel d last r
        return ((some i, w) :: es, r)
      else do
        let (w, r) ← word fuel d last endsWord ('[' :: r)
        let (es, r) ← elements fuel d last r
        return ((none, w) :: es, r)
    | t =>
      if t.head?.any endsWord then .error (unexpected d none t)
      else do
        let (w, r) ← word fuel d last endsWord t
        let (es, r) ← elements fuel d last r
        return ((spreadBraces w).map (none, ·) ++ es, r)

/-- An assignment to a name, with the text behind that name in front. -/
def assignment (fuel : Nat) (d : Dialect) (last : Nat) (name : Text) (indexed : Bool) (t : Text) :
    Except SyntaxFault (Assignment × Text) :=
  match fuel with
  | 0 => tooDeep t
  | fuel + 1 => do
    let (index, t) ← if indexed then (word fuel d last (· = ']') t).map fun (w, t) => (some w, t.drop 1)
      else pure (none, t)
    let adds := t.head? = some '+'
    match if adds then t.drop 2 else t.drop 1 with
    | '(' :: r =>
      if d = .bash ∧ index.isNone then do
        let (es, r) ← (elements fuel d last r).mapError fun f => match f with
          | .unclosed .list _ rest => .unclosed .list r rest
          | f => f
        return (.many name adds es, r)
      else return (.one name index adds [], '(' :: r)
    | r => do
      let (w, r) ← word fuel d last endsWord r
      return (.one name index adds w, r)

/-- A simple command behind these parts of it, the last one of each kind first. -/
def simple (fuel : Nat) (d : Dialect) (last line : Nat) (as : List Assignment) (ws : List Word)
    (rs : List Redirection) (t : Text) : CommandRead :=
  match fuel with
  | 0 => tooDeep t
  | fuel + 1 =>
    let t := skipBlanks false t
    let finished : CommandRead := .ok (.simple line as.reverse ws.reverse rs.reverse, t)
    let next (_ : Unit) : CommandRead := do
      let (w, t) ← word fuel d last endsWord t
      simple fuel d last line as ((if d = .bash then spreadBraces w else [w]).reverse ++ ws) rs t
    match Token.front d t with
    | .redirection => do
      let (r, t) ← redirection fuel d last t
      simple fuel d last line as ws (r :: rs) t
    | .word | .keyword _ =>
      match assignmentHead? d t with
      | some (name, indexed, rest) =>
        if ws.isEmpty then do
          let (a, t) ← assignment fuel d last name indexed rest
          simple fuel d last line (a :: as) ws rs t
        else if isDeclaring ws && (Text.dropStart? "=(" rest).isSome then do
          let (a, t) ← assignment fuel d last name indexed rest
          let (c, t) ← simple fuel d last line as ([.literal name true] :: ws) rs t
          return (.seq c (.simple line [a] [] []), t)
        else next ()
      | none => next ()
    | .mark m =>
      match ws with
      | [w] =>
        if m = "(" ∧ as.isEmpty ∧ rs.isEmpty then do
          let r := skipBlanks false (t.drop 1)
          if Token.front d r = .mark ")" then
            match definable? d w with
            | none => .error (.functionName (r.drop 1))
            | some name => do
              let (body, r) ← command fuel d last (skipBreaks false (r.drop 1))
              return (.define name body, r)
          else .error (unexpectedWord d (some (.mark ")")) r)
        else finished
      | _ => finished
    | _ => finished

/-- A list of commands up to what closes it; it may end at once if `mayEnd`. -/
def list (fuel : Nat) (d : Dialect) (last : Nat) (mayEnd : Bool) (t : Text) : CommandRead :=
  match fuel with
  | 0 => tooDeep t
  | fuel + 1 =>
    let t := skipBreaks false t
    let token := Token.front d t
    if token = .endOfText ∨ mayEnd ∧ token.endsList then .ok (.skip, t)
    else do
      let (first, t) ← chain fuel d last t
      let t := skipBlanks false t
      let goOn (first : Command) : CommandRead := do
        let (second, t) ← list fuel d last true (t.drop 1)
        return (.seq first second, t)
      match Token.front d t with
      | .newline => goOn first
      | .mark m => if m = "&" then goOn (.background first) else if m = ";" then goOn first else return (first, t)
      | _ => return (first, t)

/-- Commands joined by `&&` and `||`, which group to the left. -/
def chain (fuel : Nat) (d : Dialect) (last : Nat) (t : Text) : CommandRead :=
  match fuel with
  | 0 => tooDeep t
  | fuel + 1 => do
    let (first, t) ← pipeline fuel d last t
    links fuel d last first t

def links (fuel : Nat) (d : Dialect) (last : Nat) (first : Command) (t : Text) : CommandRead :=
  match fuel with
  | 0 => tooDeep t
  | fuel + 1 =>
    match skipBlanks false t with
    | '&' :: '&' :: r => do
      let (second, t) ← pipeline fuel d last (skipBreaks false r)
      links fuel d last (.andThen first second) t
    | '|' :: '|' :: r => do
      let (second, t) ← pipeline fuel d last (skipBreaks false r)
      links fuel d last (.orElse first second) t
    | t => .ok (first, t)

/-- Commands that read what the one in front of them writes; an exclamation mark negates their status. -/
def pipeline (fuel : Nat) (d : Dialect) (last : Nat) (t : Text) : CommandRead :=
  match fuel with
  | 0 => tooDeep t
  | fuel + 1 =>
    let t := skipBlanks false t
    if Token.front d t = .keyword "!" then do
      let rest := skipBlanks false (t.drop 1)
      let (c, t) ← if d = .bash then pipeline fuel d last rest else pipes fuel d last rest
      return (.negated c, t)
    else pipes fuel d last t

def pipes (fuel : Nat) (d : Dialect) (last : Nat) (t : Text) : CommandRead :=
  match fuel with
  | 0 => tooDeep t
  | fuel + 1 => do
    let (first, t) ← command fuel d last t
    let piped (first : Command) (r : Text) : CommandRead := do
      let (second, t) ← pipes fuel d last (skipBreaks false r)
      return (.pipe first second, t)
    match skipBlanks false t with
    | '|' :: '|' :: r => return (first, '|' :: '|' :: r)
    | '|' :: '&' :: r =>
      if d = .bash then piped (.redirected (lineOf last t) first [.copy 2 false [.literal ['1'] true]]) r
      else piped first ('&' :: r)
    | '|' :: r => piped first r
    | t => return (first, t)

def command (fuel : Nat) (d : Dialect) (last : Nat) (t : Text) : CommandRead :=
  match fuel with
  | 0 => tooDeep t
  | fuel + 1 =>
    let t := skipBlanks false t
    let line := lineOf last t
    let redirected (c : Command) (r : Text) : CommandRead := do
      let (rs, r) ← redirections fuel d last r
      return (if rs.isEmpty then c else .redirected line c rs, r)
    let body (first final r : Text) : CommandRead := do
      let (c, r) ← list fuel d last false (← expectKeyword d first r)
      return (c, ← expectKeyword d final r)
    match Token.front d t with
    | .word | .redirection => simple fuel d last line [] [] [] t
    | .mark m =>
      let subshell (_ : Unit) : CommandRead := do
        let (c, r) ← list fuel d last false (t.drop 1)
        redirected (.subshell c) (← expectMark d ")" r)
      if m = "(" then
        match d, t with
        | .bash, '(' :: '(' :: r =>
          match sum fuel d last 0 r with
          | .ok (w, r) => redirected (.calculate line w) r
          | .error (.unclosed .brackets _ []) => .error (.unclosed .brackets r [])
          | .error _ => subshell ()
        | _, _ => subshell ()
      else .error (unexpected d none t)
    | .keyword k =>
      let rest := t.drop k.length
      if k = "\x7b" then do
        let (c, r) ← list fuel d last false rest
        redirected c (← expectKeyword d "\x7d" r)
      else if k = "if" then do
        let (c, r) ← conditional fuel d last rest
        redirected c r
      else if k = "while" ∨ k = "until" then do
        let (condition, r) ← list fuel d last false rest
        let (c, r) ← body "do" "done" r
        redirected (.whileDo (if k = "until" then .negated condition else condition) c) r
      else if k = "for" then do
        let rest := skipBlanks false rest
        match Text.dropStart? "((" rest with
        | some r =>
          if d = .bash then do
            let (start, r) ← counting fuel d last r
            let (condition, r) ← counting fuel d last r
            let (step, r) ← sum fuel d last 0 r
            let r := skipBlanks false r
            let r := skipBreaks false (if r.head? = some ';' then r.drop 1 else r)
            let (c, r) ← if Token.front d r = .keyword "\x7b" then body "\x7b" "\x7d" r else body "do" "done" r
            redirected (.count line start condition step c) r
          else .error (.loopVariable "((" r)
        | none => do
          let name := frontWord rest
          let r := rest.drop name.length
          if !isName name then throw (.loopVariable name r)
          let s := skipBreaks false r
          let (items, r) ←
            if Token.front d s = .keyword "in" then do
              let (ws, r) ← words fuel d last (s.drop 2)
              match Token.front d r with
              | .newline => pure (some ws, r.drop 1)
              | .mark m => if m = ";" then pure (some ws, r.drop 1) else throw (unexpected d none r)
              | _ => throw (unexpected d none r)
            else pure (none, if Token.front d s = .mark ";" then s.drop 1 else s)
          let r := skipBreaks false r
          let (c, r) ← if d = .bash ∧ Token.front d r = .keyword "\x7b" then body "\x7b" "\x7d" r
            else body "do" "done" r
          redirected (.each line name items c) r
      else if k = "case" then do
        let rest := skipBlanks false rest
        match Token.front d rest with
        | .word | .keyword _ => do
          let (subject, r) ← word fuel d last endsWord rest
          let (bs, r) ← branches fuel d last (← expectKeyword d "in" (skipBreaks false r))
          redirected (.branch line subject bs) r
        | _ => .error (unexpected d (some .word) rest)
      else if k = "[[" then do
        let (c, r) ← conditions fuel d last rest
        match Text.dropStart? "]]" (skipBreaks false r) with
        | some r => redirected (.test line c) r
        | none => .error (unexpected d none (skipBreaks false r))
      else if k = "function" then do
        let rest := skipBlanks false rest
        let name := frontWord rest
        let r := skipBlanks false (rest.drop name.length)
        let r := match Text.dropStart? "(" r with
          | some s => ((Text.dropStart? ")" (skipBlanks false s)).getD r)
          | none => r
        let (c, r) ← command fuel d last (skipBreaks false r)
        return (.define name c, r)
      else .error (unexpected d none t)
    | _ => .error (unexpected d none t)

/-- Words up to the first token that is none. -/
def words (fuel : Nat) (d : Dialect) (last : Nat) (t : Text) : Except SyntaxFault (List Word × Text) :=
  match fuel with
  | 0 => tooDeep t
  | fuel + 1 =>
    let t := skipBlanks false t
    match Token.front d t with
    | .word | .keyword _ => do
      let (w, t) ← word fuel d last endsWord t
      let (ws, t) ← words fuel d last t
      return ((if d = .bash then spreadBraces w else [w]) ++ ws, t)
    | _ => .ok ([], t)

/-- An expression up to a semicolon. -/
def counting (fuel : Nat) (d : Dialect) (last : Nat) (t : Text) : WordRead :=
  match fuel with
  | 0 => tooDeep t
  | fuel + 1 =>
    match t with
    | [] => .error (.unclosed .brackets t [])
    | ';' :: r => .ok ([], r)
    | '$' :: r => do
      let (f, r) ← dollar fuel d last true r
      let (w, r) ← counting fuel d last r
      return (f :: w, r)
    | c :: r => (counting fuel d last r).map fun (w, r) => (.literal [c] true :: w, r)

/-- What follows `if`, up to its `fi`. -/
def conditional (fuel : Nat) (d : Dialect) (last : Nat) (t : Text) : CommandRead :=
  match fuel with
  | 0 => tooDeep t
  | fuel + 1 => do
    let (condition, t) ← list fuel d last false t
    let (thenDo, t) ← list fuel d last false (← expectKeyword d "then" t)
    let t := skipBlanks false t
    match Token.front d t with
    | .keyword k =>
      if k = "elif" then do
        let (elseDo, t) ← conditional fuel d last (t.drop 4)
        return (.choose condition thenDo elseDo, t)
      else if k = "else" then do
        let (elseDo, t) ← list fuel d last false (t.drop 4)
        return (.choose condition thenDo elseDo, ← expectKeyword d "fi" t)
      else return (.choose condition thenDo .skip, ← expectKeyword d "fi" t)
    | _ => return (.choose condition thenDo .skip, ← expectKeyword d "fi" t)

/-- The branches of a case distinction, up to its `esac`. -/
def branches (fuel : Nat) (d : Dialect) (last : Nat) (t : Text) :
    Except SyntaxFault (List (List Word × Command × AfterBranch) × Text) :=
  match fuel with
  | 0 => tooDeep t
  | fuel + 1 => do
    let t := skipBreaks false t
    if Token.front d t = .keyword "esac" then return ([], t.drop 4)
    let (ps, t) ← patterns fuel d last (if t.head? = some '(' then skipBlanks false (t.drop 1) else t)
    let (body, t) ← list fuel d last true t
    let t := skipBreaks false t
    if Token.front d t = .keyword "esac" then return ([(ps, body, .leave)], t.drop 4)
    let (after, mark) : AfterBranch × Text := match d, Token.front d t with
      | .bash, .mark [';', '&'] => (.next, ";&")
      | .bash, .mark [';', ';', '&'] => (.search, ";;&")
      | _, _ => (.leave, ";;")
    let (bs, t) ← branches fuel d last (← expectMark d mark t)
    return ((ps, body, after) :: bs, t)

/-- The patterns of a branch, up to their closing bracket. -/
def patterns (fuel : Nat) (d : Dialect) (last : Nat) (t : Text) : Except SyntaxFault (List Word × Text) :=
  match fuel with
  | 0 => tooDeep t
  | fuel + 1 => do
    let t := skipBlanks false t
    let closing : Option Token := some (.mark ")")
    let (w, t) ← match Token.front d t with
      | .word | .keyword _ => word fuel d last endsWord t
      | .mark m =>
        if d = .bash then .error (unexpected d none t)
        else .error (unexpectedWord d closing (skipBlanks false (t.drop m.length)))
      | _ => .error (unexpectedWord d closing t)
    let t := skipBlanks false t
    match t with
    | '|' :: r => do
      let (ws, t) ← patterns fuel d last r
      return (w :: ws, t)
    | ')' :: r => return ([w], r)
    | t => .error (unexpectedWord d closing t)

/-- The condition between double brackets. -/
def conditions (fuel : Nat) (d : Dialect) (last : Nat) (t : Text) : Except SyntaxFault (Condition × Text) :=
  match fuel with
  | 0 => tooDeep t
  | fuel + 1 => do
    let (a, t) ← conjunction fuel d last t
    match Text.dropStart? "||" (skipBreaks false t) with
    | some t => do
      let (b, t) ← conditions fuel d last t
      return (.either a b, t)
    | none => return (a, t)

def conjunction (fuel : Nat) (d : Dialect) (last : Nat) (t : Text) : Except SyntaxFault (Condition × Text) :=
  match fuel with
  | 0 => tooDeep t
  | fuel + 1 => do
    let (a, t) ← comparison fuel d last t
    match Text.dropStart? "&&" (skipBreaks false t) with
    | some t => do
      let (b, t) ← conjunction fuel d last t
      return (.both a b, t)
    | none => return (a, t)

def comparison (fuel : Nat) (d : Dialect) (last : Nat) (t : Text) : Except SyntaxFault (Condition × Text) :=
  match fuel with
  | 0 => tooDeep t
  | fuel + 1 =>
    let t := skipBreaks false t
    let front := frontWord t
    if front = "!" then do
      let (c, t) ← comparison fuel d last (t.drop 1)
      return (.negated c, t)
    else
      match t with
      | '(' :: r => do
        let (c, t) ← conditions fuel d last r
        return (c, ← expectMark d ")" (skipBreaks false t))
      | t => do
        let isEnd (t : Text) : Bool := frontWord t = "]]" || ['&', '|', ')'].any (t.head? = some ·) || t = []
        let (a, t) ← word fuel d last endsWord t
        let t := skipBreaks false t
        if isEnd t then return (.unary "-n" a, t)
        if unaryOperators.contains front then
          let (b, t) ← word fuel d last endsWord t
          return (.unary front b, t)
        let operator := if t.head? = some '<' ∨ t.head? = some '>' then t.take 1 else frontWord t
        let r := skipBlanks false (t.drop operator.length)
        let isBlank (c : Char) : Bool := c = ' ' || c = '\t' || c = '\n'
        let (b, t) ← word fuel d last (if operator = "=~" then isBlank else endsWord) r
        return (.binary operator a b, t)

end

/-- The commands on the line at hand, with the lines that they go on to. -/
def lineCommands (fuel : Nat) (d : Dialect) (last : Nat) (t : Text) : CommandRead :=
  match fuel with
  | 0 => tooDeep t
  | fuel + 1 => do
    let (first, t) ← chain fuel d last t
    let t := skipBlanks false t
    let goOn (first : Command) : CommandRead := do
      let r := skipBlanks false (t.drop 1)
      match Token.front d r with
      | .endOfText => return (first, [])
      | .newline => return (first, r.drop 1)
      | _ => do
        let (second, t) ← lineCommands fuel d last r
        return (.seq first second, t)
    match Token.front d t with
    | .endOfText => return (first, [])
    | .newline => return (first, t.drop 1)
    | .mark m =>
      if m = "&" then goOn (.background first)
      else if m = ";" then goOn first
      else .error (unexpected d none t)
    | _ => .error (unexpected d none t)

/-- Commands that are run one after the other, each with the number of the line behind it. -/
structure Script where
  commands : List (Nat × Command)
  /-- What makes no sense behind them. -/
  fault : Option SyntaxFault

/-- A script read line by line, as far as it can be read. -/
def scriptFrom (fuel : Nat) (d : Dialect) (last : Nat) (t : Text) : Script :=
  match fuel with
  | 0 => ⟨[], none⟩
  | fuel + 1 =>
    let t := skipBreaks false t
    if t = [] then ⟨[], none⟩
    else
      match lineCommands (8 * t.length + 16) d last t with
      | .error f => ⟨[], some f⟩
      | .ok (c, r) =>
        let rest := scriptFrom fuel d last r
        { rest with commands := (lineOf last r, c) :: rest.commands }

/-- The number of the last line of a script. -/
def lastLine (t : Text) : Nat := t.count '\n' + 1

/-- The commands of a script. -/
def script (d : Dialect) (t : Text) : Script := scriptFrom (t.length + 1) d (lastLine t) t

end SchemaDrift.Shell
