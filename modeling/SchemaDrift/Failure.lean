import SchemaDrift.Host.ExitStatus
import SchemaDrift.Host.Fault
import SchemaDrift.Server.Exchange

namespace SchemaDrift

/-- What is wrong with a configuration. -/
inductive ConfigFault where
  | port (f : PortFault)
  | connect (f : ConnectFault)
  | unreadable (f : HostFault)
  /-- The document is none that describes a configuration; the reason is its reader's. -/
  | malformed (reason : Text)
  deriving DecidableEq, Repr

def ConfigFault.message : ConfigFault → Text
  | .port f => f.message
  | .connect f => f.message
  | .unreadable f => "Failed to read config file: " ++ f.message
  | .malformed reason => "Failed to parse config file: " ++ reason

/-- Why the dump program gave no schema; `command` is its command line. -/
inductive DumpFault where
  | notStarted (command : Text) (f : HostFault)
  | failed (command : Text) (status : ExitStatus) (errors : Text)
  | notText (f : Utf8Fault)
  deriving DecidableEq, Repr

def DumpFault.message : DumpFault → Text
  | .notStarted command f => "Failed to execute `mysqldump` command (command: " ++ command ++ "): " ++ f.message
  | .failed command status errors =>
    "`mysqldump` exited with " ++ status.message ++ " (command: " ++ command ++ "): " ++ errors
  | .notText f => "`mysqldump` output is not UTF-8: " ++ f.message

/-- Why a schema could not be had. -/
inductive Failure where
  | config (f : ConfigFault)
  /-- An argument that is neither a path nor the description of a database. -/
  | argument (text : Text)
  | dump (f : DumpFault)
  | io (f : HostFault)
  | server (f : ServerFault)
  deriving DecidableEq, Repr

namespace Failure

def message : Failure → Text
  | .config f => "Configuration error: " ++ f.message
  | .argument text => "Invalid argument: Invalid remote DB argument is detected: " ++ text
  | .dump f => "Schema dump error: " ++ f.message
  | .io f => "IO error: " ++ f.message
  | .server f => "SQLx error: " ++ f.message

/-- The messages of a failure and of what lies behind it. -/
def chain (f : Failure) : List Text :=
  match f with
  | .io g => [f.message, g.message]
  | .server g => f.message :: g.message :: g.causes
  | _ => [f.message]

end Failure
end SchemaDrift
