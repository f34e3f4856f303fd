import SchemaDrift.Log.Logged
import SchemaDrift.Source.Argument

namespace SchemaDrift

/-- What produces schema dumps: the dump program and the server that SQL is loaded into. -/
structure Dumper where
  connection : Connection := {}
  program : Text := "mysqldump"
  deriving DecidableEq, Repr

namespace Dumper

def target : Text := "mysql_diff::db::dumper"

/-- The environment variable that hands the password over, unless there is none. -/
def passwordVariable (c : Connection) : List (Text × Text) :=
  if c.password = [] then [] else [("MYSQL_PWD", c.password)]

/-- The run of the dump program that dumps a database of a server. -/
def invocation (d : Dumper) (database : Text) (c : Connection) : Invocation :=
  { program := d.program, arguments := c.dumpArguments database, environment := passwordVariable c }

def commandLine (i : Invocation) : Text := i.program ++ ' ' :: List.intercalate " " i.arguments

/-- The text that a completed run of the dump program comes to. -/
def dumpText (command : Text) (c : Completion) : Except DumpFault Text :=
  if c.status ≠ .code 0 then .error (.failed command c.status (Utf8.decodeLossy c.errors).trim)
  else (Utf8.decode c.output).mapError .notText

/-- Dumps a database of a server. -/
def dumpDatabase (d : Dumper) (database : Text) (c : Connection) : Logged Text := do
  let i := d.invocation database c
  let command := commandLine i
  .log [⟨.info, target, "Running mysqldump", [("command", .shown command)]⟩]
  match ← .execute i with
  | .error f => throw (.dump (.notStarted command f))
  | .ok completion => .ofExcept ((dumpText command completion).mapError .dump)

/-- Opens a connection to the configured server, for that database if there is one. -/
def connect (d : Dumper) (database : Option Text) : Logged Nat := do
  let l ← .ofExcept (d.connection.login.mapError fun f => .config (.connect f))
  .connect { l with options := { l.options with database := database <|> l.options.database } }

/-- Loads SQL into a database of the configured server and dumps that. -/
def loadAndDump (d : Dumper) (database sql : Text) : Logged Text := do
  let connection ← d.connect database
  .demand (.execute connection sql)
  .demand (.close connection)
  d.dumpDatabase database d.connection

/-- Closes a connection that is not needed any more; it does not matter much if that fails. -/
def release (connection : Nat) : Logged Unit := do
  match ← .ask (.close connection) with
  | none => return ()
  | some f => .log [⟨.debug, target, "Failed to close connection cleanly", [("error", .shown f.message)]⟩]

/-- What a load comes to: a failure to drop the temporary database counts if nothing failed before. -/
def conclude (database : Text) : Except Failure Text → Option ServerFault → Logged Text
  | .ok schema, none => return schema
  | .ok _, some f => throw (.server f)
  | .error f, none => throw f
  | .error f, some undropped => do
    .log [⟨.warn, target, "Failed to drop temporary database",
      [("database", .shown database), ("error", .shown undropped.message)]⟩]
    throw f

/-- Loads SQL into a temporary database of the configured server and dumps that. The database is dropped again
whatever comes of it. -/
def dumpSql (d : Dumper) (sql : Text) : Logged Text := do
  let database := ("tmp_" : Text) ++ (← .fresh)
  let connection ← d.connect none
  .log [⟨.debug, target, "Creating temporary database", [("database", .shown database)]⟩]
  .demand (.execute connection ("CREATE DATABASE `" ++ database ++ "`"))
  let dumped ← .attempt (d.loadAndDump database sql)
  let undropped ← .ask (.execute connection ("DROP DATABASE `" ++ database ++ "`"))
  release connection
  conclude database dumped undropped

/-- Dumps the schema that a file of SQL defines. -/
def dumpFile (d : Dumper) (path : Text) : Logged Text := do
  let sql ← .readText path
  d.dumpSql sql

/-- Dumps a database of another server, and then the same schema as the configured one writes it. -/
def dumpRemote (d : Dumper) (database : Text) (c : Connection) : Logged Text := do
  let schema ← d.dumpDatabase database c
  d.dumpSql schema

end Dumper

namespace Source

def target : Text := "mysql_diff::db::source"

/-- Fetches a schema as dump text. With `raw` a file is dump text already; otherwise it is SQL to load. -/
def fetch (d : Dumper) (raw : Bool) : Source → Logged Text
  | .file path => do
    if raw then
      .log [⟨.debug, target, "Reading schema dump file", [("path", .shown path)]⟩]
      .readText path
    else
      .log [⟨.debug, target, "Loading SQL file into a temporary database", [("path", .shown path)]⟩]
      d.dumpFile path
  | .remote database c => do
    .log [⟨.debug, target, "Dumping remote database", [("database", .shown database), ("server", .shown c.url)]⟩]
    d.dumpRemote database c
  | .configured database => do
    .log [⟨.debug, target, "Dumping local database", [("database", .shown database)]⟩]
    d.dumpDatabase database d.connection

end Source
end SchemaDrift
