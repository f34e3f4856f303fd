import SchemaDrift.Posix.Tool.Lines
import SchemaDrift.Posix.Text.Expression
import SchemaDrift.Posix.Text.Pattern

namespace SchemaDrift.Tool

def grepForm : OptionForm :=
  { flags := "acbEFGhHiIlLnoPqrRsTUvwxyzZγ0123456789".toList, valued := "ABCdDefmιεδβλ".toList, optional := ['κ']
    long := [("count", 'c'), ("ignore-case", 'i'), ("line-number", 'n'), ("invert-match", 'v'),
      ("files-with-matches", 'l'), ("files-without-match", 'L'), ("no-filename", 'h'), ("with-filename", 'H'),
      ("only-matching", 'o'), ("quiet", 'q'), ("silent", 'q'), ("no-messages", 's'), ("word-regexp", 'w'),
      ("line-regexp", 'x'), ("extended-regexp", 'E'), ("fixed-strings", 'F'), ("basic-regexp", 'G'),
      ("perl-regexp", 'P'), ("recursive", 'r'), ("regexp", 'e'), ("file", 'f'), ("max-count", 'm'),
      ("after-context", 'A'), ("before-context", 'B'), ("context", 'C'), ("text", 'a'), ("color", 'κ'), ("colour", 'κ'),
      ("no-group-separator", 'γ'), ("byte-offset", 'b'), ("null-data", 'z'), ("null", 'Z'), ("include", 'ι'),
      ("exclude", 'ε'), ("exclude-dir", 'δ'), ("binary-files", 'β'), ("label", 'λ'), ("dereference-recursive", 'R'),
      ("initial-tab", 'T'), ("line-buffered", 'U'), ("no-ignore-case", 'y')].map fun (n, c) => (n.toList, c) }

/-- What is wrong with the use of a search. -/
def grepMisuse (called message : Text) : Effect :=
  let said : Text := if message = [] then [] else called ++ ": " ++ message ++ "\n"
  .complaint 2 (said ++ "Usage: " ++ called ++ " [OPTION]... PATTERNS [FILE]...\nTry '" ++ called ++
    " --help' for more information.")

/-- What lines are searched for. -/
structure Query where
  expression : Expression
  mode : Expression.Mode
  words : Bool
  inverted : Bool

/-- The parts of a line that a query finds, in their order. -/
def Query.hits (q : Query) (line : Text) : List Expression.Hit :=
  let isApart (h : Expression.Hit) : Bool :=
    !q.words || !((line.take h.start).getLast?.any Expression.isWordChar) &&
      !((line.drop h.stop).head?.any Expression.isWordChar)
  (Expression.hits q.mode q.expression line).filter isApart

def Query.selects (q : Query) (line : Text) : Bool :=
  let found := if q.words then !(q.hits line).isEmpty else (Expression.find? q.mode q.expression line).isSome
  found ≠ q.inverted

/-- The expression that covers what one of some expressions covers. -/
def anyOf : List Expression → Expression
  | [] => .set ⟨false, []⟩
  | [e] => e
  | e :: es => .either e (anyOf es)

/-- The expression that some lines of patterns spell out. -/
def queryExpression (o : Options) (patterns : List Text) : Except ExpressionFault Expression := do
  let es ← patterns.mapM fun p =>
    if o.has 'F' then .ok (p.foldr (fun c e => .seq (.char c) e) .empty)
    else Expression.read (if o.has 'E' || o.has 'P' then .lenient else .basic) p
  let e := anyOf es
  return if o.has 'x' then .seq .start (.seq e .stop) else e

/-- The files below the directories among some paths, each as its own path. -/
def filesBelow (files : FileTree) (fuel : Nat) (paths : List Text) : List Text :=
  match fuel with
  | 0 => paths
  | fuel + 1 =>
    paths.flatMap fun path =>
      match files.locate path with
      | .ok l =>
        if files.isDirectory l then
          let at_ := if path.getLast? = some '/' then path else path ++ ['/']
          filesBelow files fuel ((files.namesIn l).map (at_ ++ ·))
        else [path]
      | .error _ => [path]

/-- Whether the file at a path, which has been found below a directory, is to be searched. -/
def isWanted (o : Options) (path : Text) : Bool :=
  let covers (pattern name : Text) : Bool := Pattern.covers (pattern.map (⟨·, false⟩)) name
  let names := path.splitOn '/'
  let name := names.getLastD []
  (o.values 'ι' = [] || (o.values 'ι').any (covers · name)) && !(o.values 'ε').any (covers · name) &&
    !(o.values 'δ').any fun p => names.dropLast.any (covers p)

/-- Which of some lines are shown around those that are selected. -/
def shownLines (before after : Nat) (selected : List Bool) : List Bool :=
  let n := selected.length
  (List.range n).map fun k =>
    ((selected.drop (k - after)).take (min k after + 1)).any id || ((selected.drop k).take (before + 1)).any id

/-- The selected lines up to a limit. -/
def limited (limit : Option Nat) (selected : List Bool) : List Bool :=
  (selected.foldl (fun (n, out) s =>
    if s && limit.all (n < ·) then (n + 1, true :: out) else (n, false :: out)) (0, ([] : List Bool))).2.reverse

/-- Searches the lines of one file: what is written, and whether anything was found. -/
def searchFile (o : Options) (q : Query) (named : Bool) (before after : Nat) (limit : Option Nat) (c : Content)
    (t : Text) : Text × Bool :=
  let lines := (Bytes.lines t).map Bytes.body
  let path := Bytes.ofChars (if c.path = "-" then (o.value? 'λ').getD "(standard input)".toList else c.path)
  let behindPath (mark : Char) : Text := path ++ [if o.has 'Z' then '\x00' else mark]
  let starts := (Bytes.lines t).foldl (fun (out : List Nat) l => (out.headD 0 + l.length) :: out) [0] |>.reverse
  let selected := limited limit (lines.map q.selects)
  let count := (selected.filter id).length
  let found := count > 0
  let lead (mark : Char) (n offset : Nat) : Text :=
    (if named then behindPath mark else []) ++ (if o.has 'n' then Text.ofNat (n + 1) ++ [mark] else []) ++
      if o.has 'b' then Text.ofNat (starts.getD n 0 + offset) ++ [mark] else []
  if o.has 'q' then ([], found)
  else if o.has 'l' then (if found then behindPath '\n' else [], found)
  else if o.has 'L' then (if found then [] else behindPath '\n', !found)
  else if o.has 'c' then ((if named then behindPath ':' else []) ++ Text.ofNat count ++ ['\n'], found)
  else if t.contains '\x00' ∧ !o.has 'a' then (if found then "grep: " ++ path ++ ": binary file matches\n" else [], found)
  else
    let places : List Nat := ((List.range lines.length).zip selected).filterMap fun (n, (s : Bool)) =>
      if s then some n else none
    let last := if limit = some count then places.getLast? else none
    let shown := shownLines before after selected
    let numbered := (List.range lines.length).zip (lines.zip (selected.zip shown))
    let numbered := numbered.filter fun (n, _) => last.all (n ≤ · + after)
    let divides := (before > 0 || after > 0 || o.has 'A' || o.has 'B' || o.has 'C') && !o.has 'γ'
    let write (state : Option Nat × Text) (entry : Nat × Text × Bool × Bool) : Option Nat × Text :=
      let (previous, out) := state
      let (n, line, isHit, isShown) := entry
      if !isShown then state
      else
        let gap : Text := if divides ∧ previous.any (· + 1 < n) then "--\n" else []
        let own : Text :=
          if o.has 'o' then
            if isHit ∧ !q.inverted then
              (q.hits line).flatMap fun h =>
                if h.start = h.stop then [] else lead ':' n h.start ++ (line.take h.stop).drop h.start ++ ['\n']
            else []
          else lead (if isHit then ':' else '-') n 0 ++ line ++ ['\n']
        (some n, out ++ gap ++ own)
    ((numbered.foldl write (none, [])).2, found)

/-- Writes the lines of files that patterns are found in. -/
def grep (around : Surroundings) (called : Text) (extended fixed : Bool) (arguments : List Text) : Effect :=
  match Options.read grepForm arguments with
  | .error message => grepMisuse called message
  | .ok o =>
    let o := if extended then o.add 'E' else if fixed then o.add 'F' else o
    let given := o.values 'e'
    let fromFiles := (o.values 'f').map fun path => (path, read around path)
    let hasPatterns := given ≠ [] || !fromFiles.isEmpty
    match hasPatterns, o.operands with
    | false, [] => grepMisuse called []
    | _, operands =>
      match fromFiles.find? (·.2.toOption.isNone) with
      | some (path, .error f) => .complaint 2 (called ++ ": " ++ path ++ ": " ++ reason f)
      | _ =>
      let patterns := (if hasPatterns then given else operands.take 1).flatMap fun p => (Bytes.ofChars p).splitOn '\n'
      let patterns := patterns ++ fromFiles.flatMap fun (_, t) =>
        ((Bytes.lines (t.toOption.getD [])).map Bytes.body)
      let paths := if hasPatterns then operands else operands.drop 1
      let recursive := o.has 'r' || o.has 'R'
      let paths := if recursive then
          if paths = [] then (filesBelow around.files 64 [['.']]).map fun p => (Text.dropStart? "./" p).getD p
          else filesBelow around.files 64 paths
        else paths
      let paths := if recursive then paths.filter (isWanted o) else paths
      let number (c : Char) : Option Nat := (o.value? c).bind natural?
      match o.given.find? fun (c, v) => ['A', 'B', 'C', 'm'].contains c && (natural? v).isNone with
      | some (c, v) =>
        let why : Text := if c = 'm' then "invalid max count" else v ++ ": invalid context length argument"
        .complaint 2 (called ++ ": " ++ why)
      | none =>
        match queryExpression o patterns with
        | .error f => .complaint 2 (called ++ ": " ++ f.message)
        | .ok expression =>
          let q : Query :=
            { expression, mode := { folds := o.has 'i' || o.has 'y' }, words := o.has 'w', inverted := o.has 'v' }
          let digits := o.given.filterMap fun (c, _) => if c.isDigit then some c else none
          let around_ := if digits = [] then number 'C' else natural? digits
          let before := ((number 'B').or around_).getD 0
          let after := ((number 'A').or around_).getD 0
          let named := (o.has 'H' || paths.length > 1 || recursive) && !o.has 'h'
          let cs := contents around paths
          let (found, e) := cs.foldl (fun (found, (e : Effect)) c =>
            match c.bytes with
            | .error f =>
              (found, if o.has 's' then { e with status := 2 } else e.andThen (.complaint 2 (called ++ ": " ++ c.path ++ ": " ++ reason f)))
            | .ok t =>
              let (out, here) := searchFile o q named before after (number 'm') c t
              (found || here, e.andThen (.output (Bytes.ofText out)))) (false, ({} : Effect))
          { e.errorsFirst with
            status := if e.status = 2 ∧ !(o.has 'q' ∧ found) then 2 else if found then 0 else 1
            rest := usedInput paths }

end SchemaDrift.Tool
