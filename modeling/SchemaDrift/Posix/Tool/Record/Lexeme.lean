import SchemaDrift.Posix.Tool.Record.Basic
import SchemaDrift.Posix.Text.Escape

namespace SchemaDrift.Record

/-- A word or sign of a script. -/
inductive Lexeme where
  | number (x : Fraction)
  | text (t : Text)
  | pattern (t : Text)
  | name (t : Text)
  | builtin (t : Text)
  | keyword (t : Text)
  | mark (t : Text)
  | newline
  deriving DecidableEq, Repr

/-- What is said about a script that makes no sense. -/
abbrev Fault : Type := Text

def keywords : List Text :=
  ["BEGIN", "END", "break", "continue", "delete", "do", "else", "exit", "for", "function", "getline", "if", "in", "next",
    "nextfile", "print", "printf", "return", "while"].map String.toList

def builtins : List Text :=
  ["close", "fflush", "gsub", "index", "int", "length", "match", "split", "sprintf", "sqrt", "sub", "substr", "tolower",
    "toupper"].map String.toList

/-- The signs, those in front that start with others. -/
def marks : List Text :=
  ["&&", "||", "++", "--", "+=", "-=", "*=", "/=", "%=", "^=", "==", "<=", ">=", "!=", "!~", ">>", "\x7b",
    "\x7d", "(", ")", "[", "]", ";", ",", "+", "-", "*", "/", "%", "^", "!", ">", "<", "|", "?", ":", "~", "$",
    "="].map String.toList

def isNameChar (c : Char) : Bool := c.isAlphanum || c = '_'

namespace Lexeme

/-- Whether a sign of division may follow, and no expression. -/
def endsOperand : Lexeme → Bool
  | .number _ | .text _ | .name _ | .builtin _ => true
  | .mark m => m = ")" || m = "]" || m = "++" || m = "--"
  | .pattern _ | .keyword _ | .newline => false

/-- How messages call a lexeme. -/
def shown : Lexeme → Text
  | .number x => numberText (fun x => x.general 6) x
  | .text t => '"' :: t ++ ['"']
  | .pattern t => '/' :: t ++ ['/']
  | .name t | .builtin t | .keyword t | .mark t => t
  | .newline => "end of line"

end Lexeme

/-- The text up to a closing quote, with its escapes as they are, and the text behind it. -/
def cutQuoted? : Text → Option (Text × Text)
  | [] => none
  | '"' :: r => some ([], r)
  | '\\' :: c :: r => (cutQuoted? r).map fun (a, r) => ('\\' :: c :: a, r)
  | c :: r => if c = '\n' then none else (cutQuoted? r).map fun (a, r) => (c :: a, r)

/-- The expression up to a closing slash, which stands between no brackets, and the text behind it. -/
def cutPattern? (bracketed : Bool) : Text → Option (Text × Text)
  | [] => none
  | '\\' :: '/' :: r => (cutPattern? bracketed r).map fun (a, r) => ('/' :: a, r)
  | '\\' :: c :: r => (cutPattern? bracketed r).map fun (a, r) => ('\\' :: c :: a, r)
  | '[' :: ']' :: r => (cutPattern? true r).map fun (a, r) => ('[' :: ']' :: a, r)
  | c :: r =>
    if c = '\n' then none
    else if c = '/' ∧ !bracketed then some ([], r)
    else (cutPattern? (c = '[' || bracketed && c ≠ ']') r).map fun (a, r) => (c :: a, r)

/-- A text with its escapes replaced; `fuel` exceeds its length. -/
def unescaped (fuel : Nat) (t : Text) : Text :=
  match fuel with
  | 0 => []
  | fuel + 1 =>
    match t with
    | [] => []
    | '\\' :: c :: r =>
      match Escape.front { octal := true, plain := ['"'] } c r with
      | some (bytes, r) => Bytes.toText bytes ++ unescaped fuel r
      | none => []
    | c :: r => c :: unescaped fuel r

/-- The lexemes of a script, each with the number of its line; `line` is the number of the first one. -/
def lexemes (fuel line : Nat) (afterOperand : Bool) (t : Text) : Except Fault (List (Nat × Lexeme)) :=
  match fuel with
  | 0 => .ok []
  | fuel + 1 =>
    let behind (l : Lexeme) (r : Text) : Except Fault (List (Nat × Lexeme)) :=
      (lexemes fuel line l.endsOperand r).map ((line, l) :: ·)
    match t with
    | [] => .ok []
    | '\\' :: '\n' :: r => lexemes fuel (line + 1) afterOperand r
    | c :: r =>
      if c = '\n' then (lexemes fuel (line + 1) false r).map ((line, .newline) :: ·)
      else if isBlank c then lexemes fuel line afterOperand r
      else if c = '#' then lexemes fuel line afterOperand (r.dropWhile (· ≠ '\n'))
      else if c = '"' then
        match cutQuoted? r with
        | some (a, r) => behind (.text (unescaped (a.length + 1) a)) r
        | none =>
          .error ("line " ++ Text.ofNat line ++ ": runaway string constant \"" ++ (r.takeWhile (· ≠ '\n')).take 10 ++ " ...")
      else if c = '/' ∧ !afterOperand then
        match cutPattern? false r with
        | some (a, r) => behind (.pattern a) r
        | none =>
          .error ("line " ++ Text.ofNat line ++ ": runaway regular expression /" ++ (r.takeWhile (· ≠ '\n')).take 10 ++ " ...")
      else if c.isDigit ∨ c = '.' ∧ r.head?.any Char.isDigit then
        match Fraction.read? t with
        | some (x, r) => behind (.number (x.kept precision)) r
        | none => .ok []
      else if isNameChar c then
        let name := t.takeWhile isNameChar
        let r := t.drop name.length
        if keywords.contains name then behind (.keyword name) r
        else if builtins.contains name then behind (.builtin name) r
        else behind (.name name) r
      else
        match marks.find? (·.isPrefixOf t) with
        | some m => behind (.mark m) (t.drop m.length)
        | none => .error (Text.ofNat line ++ ": unexpected character '" ++ [c] ++ "'")

end SchemaDrift.Record
