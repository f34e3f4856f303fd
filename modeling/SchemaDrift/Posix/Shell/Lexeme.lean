import SchemaDrift.Posix.Shell.Basic

namespace SchemaDrift.Shell

def isNameStart (c : Char) : Bool := c.isAlpha || c = '_'

def isNameChar (c : Char) : Bool := c.isAlphanum || c = '_'

/-- Whether a text may be the name of a value. -/
def isName (t : Text) : Bool := t.head?.any isNameStart && t.all isNameChar

def endsWord (c : Char) : Bool := [' ', '\t', '\n', ';', '&', '|', '<', '>', '(', ')'].contains c

/-- The text behind blanks and a comment. -/
def skipBlanks (inComment : Bool) : Text → Text
  | [] => []
  | '\\' :: '\n' :: r => if inComment then '\n' :: r else skipBlanks false r
  | c :: r =>
    if c = '\n' then c :: r
    else if inComment || c = '#' then skipBlanks true r
    else if c = ' ' ∨ c = '\t' then skipBlanks false r
    else c :: r

/-- The text behind blanks, comments and line breaks. -/
def skipBreaks (inComment : Bool) : Text → Text
  | [] => []
  | '\\' :: '\n' :: r => skipBreaks false r
  | c :: r =>
    if c = '\n' then skipBreaks false r
    else if inComment || c = '#' then skipBreaks true r
    else if c = ' ' ∨ c = '\t' then skipBreaks false r
    else c :: r

/-- The word at the front, as it is written. -/
def frontWord (t : Text) : Text := t.takeWhile (!endsWord ·)

/-- A sign of the grammar. -/
inductive Token where
  | endOfText
  | newline
  | mark (t : Text)
  | redirection
  | word
  | keyword (name : Text)
  deriving DecidableEq, Repr

namespace Token

/-- The words with a meaning of their own where a command may start. -/
def keywords (d : Dialect) : List Text :=
  let common : List Text :=
    ["!", "case", "do", "done", "elif", "else", "esac", "fi", "for", "if", "in", "then", "until", "while", "\x7b",
      "\x7d"]
  common ++ if d = .bash then ["function".toList, "[[".toList] else []

/-- What may stand behind a branch. -/
def branchEnds (d : Dialect) : List Text :=
  if d = .bash then [";;&", ";;", ";&"].map String.toList else [";;".toList]

/-- The marks, those in front that start with others. -/
def marks (d : Dialect) : List Text := branchEnds d ++ [";", "&&", "&", "||", "|", "(", ")"].map String.toList

/-- The token at the front of a text that starts with no blank. -/
def front (d : Dialect) (t : Text) : Token :=
  match t with
  | [] => .endOfText
  | c :: r =>
    let isRedirection (t : Text) : Bool := t.head? = some '<' || t.head? = some '>'
    if c = '\n' then .newline
    else if isRedirection t || c.isDigit && isRedirection r then .redirection
    else if d = .bash && (Text.dropStart? "&>" t).isSome then .redirection
    else
      match (marks d).find? (·.isPrefixOf t) with
      | some m => .mark m
      | none => if (keywords d).contains (frontWord t) then .keyword (frontWord t) else .word

/-- How messages call a token. -/
def name : Token → Text
  | .endOfText => "end of file"
  | .newline => "newline"
  | .redirection => "redirection"
  | .word => "word"
  | .mark t | .keyword t => "\"" ++ t ++ "\""

/-- Whether a list of commands goes no further than this token. -/
def endsList : Token → Bool
  | .endOfText => true
  | .mark t => t = ")" || (branchEnds .bash).contains t
  | .keyword t =>
    ["\x7d", "do", "done", "elif", "else", "esac", "fi", "then"].any (t = String.toList ·)
  | _ => false

end Token

/-- What is missing at the end of a text. -/
inductive Closing where
  | quote (c : Char)
  | backquote
  | brace
  | bracket
  | brackets
  /-- The bracket behind the values of a list. -/
  | list
  deriving DecidableEq, Repr

/-- Why a text is no script. Each cause holds the text behind the place where it shows. -/
inductive SyntaxFault where
  | unexpected (token : Token) (expected : Option Token) (written rest : Text)
  /-- Something that starts in front of a text is not closed. -/
  | unclosed (missing : Closing) (start rest : Text)
  | loopVariable (name rest : Text)
  | functionName (rest : Text)
  | outputNumber (rest : Text)
  deriving DecidableEq, Repr

/-- The number of the line that the rest of a script starts on, given the number of the last line. -/
def lineOf (last : Nat) (rest : Text) : Nat := last - rest.count '\n'

namespace SyntaxFault

/-- What the plain shell says about a fault, and on which line. -/
def plainMessage (last : Nat) : SyntaxFault → Nat × Text
  | .unexpected token expected _ rest =>
    let expecting : Text := match expected with
      | some e => " (expecting " ++ e.name ++ ")"
      | none => []
    (lineOf last rest, token.name ++ " unexpected" ++ expecting)
  | .unclosed missing _ rest =>
    (lineOf last rest,
      match missing with
      | .quote _ => "Unterminated quoted string"
      | .backquote => "EOF in backquote substitution"
      | .brace => "Missing '\x7d'"
      | .bracket | .list => "end of file unexpected (expecting \")\")"
      | .brackets => "Missing '))'")
  | .loopVariable _ rest => (lineOf last rest, "Bad for loop variable")
  | .functionName rest => (lineOf last rest, "Bad function name")
  | .outputNumber rest => (lineOf last rest, "Bad fd number")

/-- What the other shell says about a fault in a script: a message for each of some lines. The number of its
last line tells the one of its first. -/
def messages (script : Text) (last : Nat) : SyntaxFault → List (Nat × Text)
  | .unexpected .endOfText _ _ rest =>
    let behind := if script.getLast? = some '\n' then 0 else 1
    [(lineOf last rest + behind, "syntax error: unexpected end of file")]
  | .unexpected token _ written rest =>
    let n := lineOf last rest - if token = .newline then 1 else 0
    let line := (script.splitOn '\n').getD (n - 1 - (last - (script.count '\n' + 1))) []
    let shown : Text := match token with
      | .newline => "newline"
      | _ => written
    [(n, "syntax error near unexpected token \x60" ++ shown ++ "'"), (n, '\x60' :: line ++ "'")]
  | .unclosed missing start rest =>
    let mark : Text := match missing with
      | .quote c => [c]
      | .backquote => "\x60"
      | .brace => "\x7d"
      | .bracket | .brackets | .list => ")"
    let n := lineOf last (if missing = .bracket then rest else start)
    [(n, "unexpected EOF while looking for matching \x60" ++ mark ++ "'")]
  | .loopVariable name rest => [(lineOf last rest, '\x60' :: name ++ "': not a valid identifier")]
  | .functionName rest => [(lineOf last rest, "not a valid identifier")]
  | .outputNumber rest => [(lineOf last rest, "ambiguous redirect")]

end SyntaxFault

/-- The lines up to the one that ends a text within a script, and the lines behind that one. -/
def bodyLines (tabs : Bool) (ending : Text) : List Text → List Text × List Text
  | [] => ([], [])
  | line :: rest =>
    let line := if tabs then line.dropWhile (· = '\t') else line
    if line = ending then ([], rest)
    else
      let (body, rest) := bodyLines tabs ending rest
      (line :: body, rest)

/-- The line at the front of a text, with the lines that continue it. -/
def wholeLine : Text → Text
  | [] => []
  | '\\' :: c :: r => '\\' :: c :: wholeLine r
  | c :: r => if c = '\n' then [] else c :: wholeLine r

/-- Takes a text that starts on the next line out of a script: that text, and the script in which
continued lines stand in its place, so that no line changes its number. -/
def cutBody (tabs : Bool) (ending t : Text) : Text × Text :=
  let line := wholeLine t
  let below := (t.drop line.length).drop 1
  let lines := below.splitOn '\n'
  let isOpen := lines.getLast? = some []
  let lines := if isOpen then lines.dropLast else lines
  let (body, rest) := bodyLines tabs ending lines
  let taken := lines.length - rest.length
  let below := if isOpen then rest.flatMap (· ++ ['\n']) else List.intercalate "\n" rest
  (body.flatMap (· ++ ['\n']),
    line ++ (List.replicate taken " \\\n".toList).flatten ++ '\n' :: below)

/-- The character behind a backslash between double quotes; other characters keep their backslash. -/
def unquotedEscape (closing : Option Char) (c : Char) : Text :=
  if ['$', '\x60', '\\'].contains c || closing = some c then [c] else ['\\', c]

/-- The text up to a closing backquote, without the backslashes it needs there, and the text behind it. -/
def backquoted (quoted : Bool) : Text → Option (Text × Text)
  | [] => none
  | '\x60' :: r => some ([], r)
  | '\\' :: '\n' :: r => backquoted quoted r
  | '\\' :: c :: r =>
    (backquoted quoted r).map fun (a, r) =>
      ((if ['$', '\x60', '\\'].contains c || quoted && c = '"' then [c] else ['\\', c]) ++ a, r)
  | c :: r => (backquoted quoted r).map fun (a, r) => (c :: a, r)

/-- A parameter's name at the front of a text. -/
def parameterName? : Text → Option (Text × Text)
  | [] => none
  | c :: r =>
    if isNameStart c then some (c :: r.takeWhile isNameChar, r.dropWhile isNameChar)
    else if c.isDigit || ['@', '*', '#', '?', '$', '-', '!'].contains c then some ([c], r)
    else none

/-- A parameter's name in braces, which may have several digits. -/
def bracedName? (t : Text) : Option (Text × Text) :=
  let digits := t.takeWhile Char.isDigit
  if digits = [] then parameterName? t else some (digits, t.drop digits.length)

/-- The text with its quotes taken away, as the end of a text within a script is compared. -/
def withoutQuotes (t : Text) : Text := t.filter fun c => !(['\'', '"', '\\'].contains c)

end SchemaDrift.Shell
