import SchemaDrift.Source.Grammar

namespace SchemaDrift

/-- The options of the command line. -/
inductive Switch where
  | config
  | program
  | raw
  | verbose
  | help
  | version
  deriving DecidableEq, Repr

def Switch.rules : List (OptionRule Switch) :=
  [⟨.config, some 'c', "config", true⟩, ⟨.program, none, "mysqldump", true⟩, ⟨.raw, none, "raw", false⟩,
    ⟨.verbose, some 'v', "verbose", false⟩, ⟨.help, some 'h', "help", false⟩,
    ⟨.version, some 'V', "version", false⟩]

/-- Why a command line asks for no comparison. -/
inductive Refusal where
  | help
  | version
  | usage
  deriving DecidableEq, Repr

/-- What a command line asks for, as far as it has been read. -/
structure Request where
  schemas : List Text := []
  config : Option Text := none
  program : Option Text := none
  raw : Bool := false
  verbosity : Nat := 0
  deriving DecidableEq, Repr

namespace Request

/-- Takes one item into account. Only the wish for more detail may come more than once, and the path
of a configuration must not be empty. -/
def add (r : Request) : OptionItem Switch → Except Refusal Request
  | .positional t => if r.schemas.length < 2 then .ok { r with schemas := r.schemas ++ [t] } else .error .usage
  | .option .config path =>
    if r.config = none ∧ path ≠ [] then .ok { r with config := some path } else .error .usage
  | .option .program t => if r.program = none then .ok { r with program := some t } else .error .usage
  | .flag .raw => if r.raw then .error .usage else .ok { r with raw := true }
  | .flag .verbose => .ok { r with verbosity := r.verbosity + 1 }
  | .flag .help => .error .help
  | .flag .version => .error .version
  | .option _ _ | .flag _ | .fault => .error .usage

/-- Reads a command line item by item; the first item that is refused decides. -/
def ofArguments (arguments : List Text) : Except Refusal Request :=
  (OptionItem.ofArguments Switch.rules arguments).foldlM add {}

end Request
end SchemaDrift
