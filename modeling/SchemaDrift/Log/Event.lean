import SchemaDrift.Log.Level
import SchemaDrift.Text.Quoted

namespace SchemaDrift

/-- The value of a log field: a text that is quoted, a text that is shown as it is, or a number. -/
inductive FieldValue where
  | text (t : Text)
  | shown (t : Text)
  | count (n : Nat)
  deriving DecidableEq, Repr

def FieldValue.written : FieldValue → Text
  | .text t => Text.quoted t
  | .shown t => t
  | .count n => Text.ofNat n

/-- Something worth a log entry; `target` names the part it happened in. -/
structure Event where
  level : Level
  target : Text
  message : Text
  fields : List (Text × FieldValue) := []
  deriving DecidableEq, Repr

/-- How log entries are written: as text, as text in the styles of a terminal, or as objects. -/
inductive LogFormat where
  | text
  | styled
  | json
  deriving DecidableEq, Repr

/-- The format a name stands for: `json` in any case, and text otherwise. -/
def LogFormat.ofText (t : Text) : LogFormat := if t.map Char.toLower = "json" then .json else .text

/-- A style of a terminal. -/
inductive Style where
  | dimmed
  | italic
  | red
  | green
  | yellow
  | blue
  | purple
  deriving DecidableEq, Repr

/-- The number that commands a terminal to take on a style. -/
def Style.number : Style → Text
  | .dimmed => "2"
  | .italic => "3"
  | .red => "31"
  | .green => "32"
  | .yellow => "33"
  | .blue => "34"
  | .purple => "35"

/-- A text in a style if there are styles, and as it is if not. -/
def Style.paint (styles : Bool) (s : Style) (t : Text) : Text :=
  if styles then "\x1b[" ++ s.number ++ "m" ++ t ++ "\x1b[0m" else t

def Level.style : Level → Style
  | .error => .red
  | .warn => .yellow
  | .info => .green
  | .debug => .blue
  | .trace => .purple

namespace Event

/-- How a character of a message is written, so that no message commands the terminal it is shown on:
the controls a terminal obeys are written by their number. -/
def messageChar (c : Char) : Text :=
  if ['\x07', '\x08', '\x0c', '\x1b', '\x7f'].contains c then
    let digits := Text.ofNatHex c.toNat
    "\\x" ++ List.replicate (2 - digits.length) '0' ++ digits
  else if 0x80 ≤ c.toNat ∧ c.toNat ≤ 0x9F then "\\u\x7b" ++ Text.ofNatHex c.toNat ++ "\x7d"
  else [c]

/-- The first moment that clocks count from; a time is always written in this form. -/
def epoch : Text := "1970-01-01T00:00:00.000000Z"

/-- An entry of a text log: the time, the level in a column of five, part, message, then the fields. -/
def written (styles : Bool) (time : Text) (e : Event) : Text :=
  let column := List.replicate (5 - e.level.name.length) ' ' ++ e.level.name
  let fields : Text := e.fields.flatMap fun (name, v) =>
    ' ' :: (Style.italic.paint styles name ++ Style.dimmed.paint styles "=" ++ v.written)
  Style.dimmed.paint styles time ++ " " ++ e.level.style.paint styles column ++ " " ++
    Style.dimmed.paint styles e.target ++ Style.dimmed.paint styles ":" ++ " " ++ e.message.flatMap messageChar ++ fields

def jsonChar (c : Char) : Text :=
  match c with
  | '"' => "\\\""
  | '\\' => "\\\\"
  | '\n' => "\\n"
  | '\r' => "\\r"
  | '\t' => "\\t"
  | c =>
    if c.toNat < 0x20 then
      let digits := Text.ofNatHex c.toNat
      "\\u" ++ List.replicate (4 - digits.length) '0' ++ digits
    else [c]

def jsonText (t : Text) : Text := '"' :: (t.flatMap jsonChar ++ ['"'])

def jsonField (name : Text) : FieldValue → Text
  | .text t | .shown t => jsonText name ++ ":" ++ jsonText t
  | .count n => jsonText name ++ ":" ++ Text.ofNat n

/-- An entry of a structured log: an object with time, level, fields and part, the message being a field. -/
def json (time : Text) (e : Event) : Text :=
  let fields := jsonField "message" (.text e.message) :: e.fields.map fun (name, v) => jsonField name v
  "\x7b\"timestamp\":" ++ jsonText time ++ ",\"level\":" ++ jsonText e.level.name ++ ",\"fields\":\x7b" ++ List.intercalate "," fields ++
    "\x7d,\"target\":" ++ jsonText e.target ++ "\x7d"

/-- The line of a log that an event becomes. -/
def line (format : LogFormat) (time : Text) (e : Event) : Text :=
  (match format with
    | .text => e.written false time
    | .styled => e.written true time
    | .json => e.json time) ++ ['\n']

end Event

/-- The log that is kept of these events at that level. -/
def logText (format : LogFormat) (time : Text) (kept : Level) (events : List Event) : Text :=
  (events.filter (kept.admits ·.level)).flatMap (Event.line format time)

end SchemaDrift
