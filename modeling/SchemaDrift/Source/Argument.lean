import SchemaDrift.Failure
import SchemaDrift.Host.FileTree
import SchemaDrift.Source.Grammar
import SchemaDrift.Text.Blank

namespace SchemaDrift

/-- Where a schema comes from. -/
inductive Source where
  | file (path : Text)
  /-- A database on another server. -/
  | remote (database : Text) (connection : Connection)
  /-- A database on the configured server. -/
  | configured (database : Text)
  deriving DecidableEq, Repr

namespace Source

/-- The options in the description of a remote database. -/
inductive RemoteOption where
  | host
  | user
  | password
  | port
  deriving DecidableEq, Repr

def remoteRules : List (OptionRule RemoteOption) :=
  [⟨.host, some 'h', "host", true⟩, ⟨.user, some 'u', "user", true⟩,
    ⟨.password, some 'p', "password", true⟩, ⟨.port, some 'P', "port", true⟩]

/-- The port an option's value names; it may have a sign, which only zero allows to be a minus. -/
def optionPort? (t : Text) : Option Port :=
  match t with
  | '-' :: r => if r ≠ [] && r.all (· = '0') then some Port.zero else none
  | t => (Port.read t).toOption

/-- What a description has said so far. -/
structure Described where
  given : List RemoteOption := []
  database : Option Text := none
  connection : Connection := {}
  deriving DecidableEq, Repr

namespace Described

/-- Takes one item into account; an option may come once, and so may the database. -/
def add (d : Described) : OptionItem RemoteOption → Option Described
  | .positional t => if d.database.isSome then none else some { d with database := some t }
  | .option key value =>
    if key ∈ d.given then none
    else
      let described (c : Connection) : Described := { d with given := key :: d.given, connection := c }
      match key with
      | .host => some (described { d.connection with host := value })
      | .user => some (described { d.connection with user := value })
      | .password => some (described { d.connection with password := value })
      | .port => (optionPort? value).map fun p => described { d.connection with port := p }
  | .flag _ | .fault => none

end Described

def isQuote (c : Char) : Bool := c = '\'' || c = '"'

/-- The words of a description, which quotes may enclose as a whole. -/
def descriptionWords (t : Text) : List Text := (t.trim.trimBoth isQuote).words

/-- The remote database that a description tells of. -/
def describedRemote? (t : Text) : Option Source := do
  let d ← (OptionItem.ofArguments remoteRules (descriptionWords t)).foldlM Described.add {}
  let database ← d.database
  if database = [] then none else some (.remote database d.connection)

/-- What an argument names: a file if it is a path that exists, a remote database if it holds a
space, and a database on the configured server otherwise. -/
def ofArgument (files : FileTree) (t : Text) : Except Failure Source :=
  if files.pathExists t then .ok (.file t)
  else if t.contains ' ' then
    match describedRemote? t with
    | some s => .ok s
    | none => .error (.argument t)
  else .ok (.configured t)

end Source
end SchemaDrift
