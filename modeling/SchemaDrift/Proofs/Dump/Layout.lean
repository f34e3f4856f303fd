import SchemaDrift.Dump.Line

namespace SchemaDrift.Dump

/-- What a line of a table block declares. -/
inductive Declaration where
  | column (c : Column)
  | primary (spec : Text)
  | key (kind : KeyKind) (k : Key)
  deriving DecidableEq, Repr

namespace Declaration

/-- The wording of a declaration. -/
def text : Declaration → Text
  | .column c => quoteIdentifier c.name ++ " " ++ c.definition
  | .primary spec => "PRIMARY KEY (" ++ spec ++ ")"
  | .key .unique k => "UNIQUE KEY " ++ quoteIdentifier k.name ++ " (" ++ k.spec ++ ")"
  | .key .ordinary k => "KEY " ++ quoteIdentifier k.name ++ " (" ++ k.spec ++ ")"

/-- The line of a declaration, without the comma that may follow. -/
def indented (d : Declaration) : Text := "  " ++ d.text

/-- The parts of a declaration that its wording is made from. -/
def parts : Declaration → List Text
  | .column c => [c.name, c.definition]
  | .primary spec => [spec]
  | .key _ k => [k.name, k.spec]

def column? : Declaration → Option Column
  | .column c => some c
  | _ => none

def primary? : Declaration → Option Text
  | .primary spec => some spec
  | _ => none

def key? (kind : KeyKind) : Declaration → Option Key
  | .key kind' k => if kind' = kind then some k else none
  | _ => none

/-- What a reader takes a declaration for. -/
def line : Declaration → Line
  | .column c => .column c
  | .primary spec => .primary spec
  | .key kind k => .key kind k

/-- What a declaration adds to its table. -/
def step : Declaration → BuildStep
  | .column c => .column c
  | .primary spec => .primary spec
  | .key kind k => .key kind k

/-- Whether the wording leaves no doubt: a column's name holds no tick, and its definition neither
begins with a blank nor ends with a comma or a carriage return. The spec of a key holds no tick with
blanks and a parenthesis behind it, which stand behind the name. -/
def Plain : Declaration → Prop
  | .column c => Text.tick ∉ c.name ∧ c.definition ≠ [] ∧
      (∀ d ∈ c.definition.head?, ¬ Text.isBlank d) ∧
      c.definition.getLast? ≠ some ',' ∧ c.definition.getLast? ≠ some '\r'
  | .primary _ => True
  | .key _ k => ∀ blanks, blanks ≠ [] → (∀ d ∈ blanks, Text.isBlank d) →
      ¬ Text.tick :: (blanks ++ ['(']) <:+: k.spec

end Declaration

/-- A table as a dump lays it out: its name, its declarations in any order, and its options. -/
structure Layout where
  name : Text
  body : List Declaration
  options : Text
  deriving DecidableEq, Repr

namespace Layout

variable (l : Layout)

/-- The wording of a table. -/
def block : Text :=
  "CREATE TABLE " ++ quoteIdentifier l.name ++ " (\n" ++
    List.intercalate (",\n" : Text) (l.body.map Declaration.indented) ++ "\n) ENGINE" ++ l.options

/-- The table that is laid out. -/
def table : Table where
  name := l.name
  columns := l.body.filterMap Declaration.column?
  primary := l.body.filterMap Declaration.primary?
  keys := l.body.filterMap (Declaration.key? .ordinary)
  uniqueKeys := l.body.filterMap (Declaration.key? .unique)
  content := l.block

/-- Whether the wording of a table leaves no doubt. -/
structure Plain : Prop where
  name : Text.tick ∉ l.name
  breaks : ∀ p ∈ l.name :: l.options :: l.body.flatMap Declaration.parts, '\n' ∉ p
  body : ∀ d ∈ l.body, d.Plain
  columns : ((l.body.filterMap Declaration.column?).map Column.name).Nodup
  options : ∀ behind ∈ Text.fromFirst? " ENGINE" l.block, ';' ∉ behind

end Layout

/-- A dump of tables, each with its semicolon, and of whatever stands in front of, between and
behind them. -/
def written (lead : Text) (parts : List (Layout × Text)) : Text :=
  lead ++ parts.flatMap fun p => p.1.block ++ (';' :: p.2)

end SchemaDrift.Dump
