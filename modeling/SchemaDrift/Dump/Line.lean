import SchemaDrift.Table.Build
import SchemaDrift.Text.Blank

namespace SchemaDrift.Dump

/-- What a line of a table block says. -/
inductive Line where
  /-- Blank, or a line that opens or closes the block. -/
  | frame
  | primary (spec : Text)
  | key (kind : KeyKind) (k : Key)
  | column (c : Column)
  | unknown
  deriving DecidableEq, Repr

/-- The text behind at least one blank. -/
def afterBlanks? : Text → Option Text
  | [] => none
  | c :: r => if Text.isBlank c then some (Text.trimStart r) else none

/-- The spec between a parenthesis at the start and the last closing one. -/
def inParentheses? : Text → Option Text
  | '(' :: r => Text.beforeLast? ')' r
  | _ => none

/-- The spec in parentheses behind at least one blank. -/
def keySpec? (t : Text) : Option Text := afterBlanks? t >>= inParentheses?

/-- The name up to the last quoting character that a spec follows, and that spec. -/
def longestKey? : Text → Option Key
  | [] => none
  | c :: r =>
    match longestKey? r with
    | some k => some { k with name := c :: k.name }
    | none => if c = Text.tick then (keySpec? r).map fun spec => { name := [], spec } else none

/-- The text behind a keyword that only blanks precede. -/
def afterKeyword? (keyword line : Text) : Option Text := Text.dropStart? keyword line.trimStart

def primarySpec? (line : Text) : Option Text := afterKeyword? "PRIMARY KEY" line >>= keySpec?

/-- The key a line declares behind its keyword. -/
def declaredKey? (keyword line : Text) : Option Key := do
  let r ← afterKeyword? keyword line >>= afterBlanks?
  let r ← Text.dropStart? [Text.tick] r
  longestKey? r

def KeyKind.keyword : KeyKind → Text
  | .ordinary => "KEY"
  | .unique => "UNIQUE KEY"

/-- A column definition: what follows at least one blank, without one comma at the end. Of blanks
alone the last one is the definition, and a lone comma is one. -/
def columnDefinition? : Text → Option Text
  | c :: d :: r =>
    if Text.isBlank c then
      match Text.trimStart (d :: r) with
      | [] => (d :: r).getLast?.map ([·])
      | e :: s => some (if s.getLast? = some ',' then e :: s.dropLast else e :: s)
    else none
  | _ => none

/-- The name up to the first quoting character that a definition follows, and that definition. -/
def shortestColumn? : Text → Option Column
  | [] => none
  | c :: r =>
    match if c = Text.tick then columnDefinition? r else none with
    | some definition => some { name := [], definition }
    | none => (shortestColumn? r).map fun k => { k with name := c :: k.name }

def declaredColumn? (line : Text) : Option Column := do
  let r ← Text.dropStart? [Text.tick] line.trimStart
  shortestColumn? r

/-- Whether a line only frames the declarations of its block. -/
def isFrame (line : Text) : Bool :=
  let t := line.trimStart
  t = [] || ("CREATE" : Text).isPrefixOf t || t.head? = some ')'

/-- Reads a line: the primary key, a unique key, an ordinary key and a column are tried in turn. -/
def Line.read (line : Text) : Line :=
  if isFrame line then .frame
  else if let some spec := primarySpec? line then .primary spec
  else if let some k := declaredKey? (KeyKind.keyword .unique) line then .key .unique k
  else if let some k := declaredKey? (KeyKind.keyword .ordinary) line then .key .ordinary k
  else if let some c := declaredColumn? line then .column c
  else .unknown

/-- What a line adds to its table. -/
def Line.step? : Line → Option BuildStep
  | .primary spec => some (.primary spec)
  | .key kind k => some (.key kind k)
  | .column c => some (.column c)
  | .frame | .unknown => none

end SchemaDrift.Dump
