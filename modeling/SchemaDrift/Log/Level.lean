import SchemaDrift.Text.Basic

namespace SchemaDrift

/-- How grave a log event is, the gravest level first. -/
inductive Level where
  | error
  | warn
  | info
  | debug
  | trace
  deriving DecidableEq, Repr

namespace Level

def all : List Level := [.error, .warn, .info, .debug, .trace]

def name : Level → Text
  | .error => "ERROR"
  | .warn => "WARN"
  | .info => "INFO"
  | .debug => "DEBUG"
  | .trace => "TRACE"

def rank : Level → Nat
  | .error => 0
  | .warn => 1
  | .info => 2
  | .debug => 3
  | .trace => 4

/-- Whether a log kept at this level holds events of the other one. -/
def admits (kept event : Level) : Bool := event.rank ≤ kept.rank

/-- A text in lower case as far as level names go: outside of ASCII no letter has a lower case that
a level name holds. -/
def lowered (t : Text) : Text := t.map Char.toLower

/-- The level a text names in any case; every other text means `info`. -/
def ofText (t : Text) : Level := (all.find? fun l => lowered l.name = lowered t).getD .info

end Level
end SchemaDrift
