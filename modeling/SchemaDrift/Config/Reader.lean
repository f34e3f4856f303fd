import SchemaDrift.Config.Basic
import SchemaDrift.Failure
import SchemaDrift.Host.FileTree
import SchemaDrift.Toml.Reader

namespace SchemaDrift

/-- The entries of a section. A list names no fields and gives them in their order, and a date
gives none. -/
def sectionEntries? (fields : List Text) : Toml.Value → Option Toml.Entries
  | .table _ entries => some entries
  | .array items | .tables items => some (fields.zip items)
  | .dateTime _ => some []
  | _ => none

/-- The value of a field as `read` understands it; a field that is missing has its default. -/
def fieldOr? {α : Type} (read : Toml.Value → Option α) (default : α) (entries : Toml.Entries) (field : Text) :
    Option α :=
  match entries.lookup field with
  | none => some default
  | some v => read v

def textValue? : Toml.Value → Option Text
  | .text t => some t
  | _ => none

def booleanValue? : Toml.Value → Option Bool
  | .boolean b => some b
  | _ => none

def portValue? : Toml.Value → Option Port
  | .integer n => if h : 0 ≤ n ∧ n < 65536 then some ⟨n.toNat, by omega⟩ else none
  | _ => none

def textsValue? : Toml.Value → Option (List Text)
  | .array items | .tables items => items.mapM textValue?
  | _ => none

def ServerSettings.ofSection? (v : Toml.Value) : Option ServerSettings := do
  let entries ← sectionEntries? ["host", "port", "user", "password", "properties"] v
  let usual : ServerSettings := {}
  return {
    host := ← fieldOr? textValue? usual.host entries "host"
    port := ← fieldOr? portValue? usual.port entries "port"
    user := ← fieldOr? textValue? usual.user entries "user"
    password := ← fieldOr? textValue? usual.password entries "password"
    properties := ← fieldOr? textsValue? usual.properties entries "properties"
  }

def DumpSettings.ofSection? (v : Toml.Value) : Option DumpSettings := do
  let entries ← sectionEntries? ["mysqldump_path", "raw"] v
  let usual : DumpSettings := {}
  return {
    program := ← fieldOr? textValue? usual.program entries "mysqldump_path"
    raw := ← fieldOr? booleanValue? usual.raw entries "raw"
  }

def LogSettings.ofSection? (v : Toml.Value) : Option LogSettings := do
  let entries ← sectionEntries? ["level", "file", "format", "console"] v
  let usual : LogSettings := {}
  return {
    level := ← fieldOr? textValue? usual.level entries "level"
    file := ← fieldOr? (fun v => (textValue? v).map some) usual.file entries "file"
    format := ← fieldOr? textValue? usual.format entries "format"
    console := ← fieldOr? booleanValue? usual.console entries "console"
  }

namespace Config

/-- The configuration that a document describes; keys of no meaning are passed over. -/
def ofEntries? (entries : Toml.Entries) : Option Config := do
  return {
    server := ← fieldOr? ServerSettings.ofSection? {} entries "mysql"
    dump := ← fieldOr? DumpSettings.ofSection? {} entries "dump"
    log := ← fieldOr? LogSettings.ofSection? {} entries "logging"
  }

/-- The configuration a text describes. -/
def read? (t : Text) : Option Config := Toml.read? t >>= ofEntries?

/-- Loads the configuration in a file; `reason` is what there is to say against a document that describes none. -/
def load (reason : Text → Text) (files : FileTree) (path : Text) : Except ConfigFault Config :=
  match files.readText path with
  | .error f => .error (.unreadable f)
  | .ok t =>
    match read? t with
    | some c => .ok c
    | none => .error (.malformed (reason t))

end Config
end SchemaDrift
