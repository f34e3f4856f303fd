import SchemaDrift.Server.Connection

namespace SchemaDrift

/-- The server that schemas are loaded into and dumped from. -/
structure ServerSettings where
  host : Text := "localhost"
  port : Port := Port.default
  user : Text := "root"
  password : Text := []
  properties : List Text := []
  deriving DecidableEq, Repr

namespace ServerSettings

/-- How to reach the server, with the properties added one after the other. -/
def connection (s : ServerSettings) : Connection :=
  s.properties.foldl (fun c t => { c with properties := c.properties ++ [t] })
    { host := s.host, port := s.port, user := s.user, password := s.password }

theorem foldl_property (ts : List Text) (c : Connection) :
    ts.foldl (fun c t => { c with properties := c.properties ++ [t] }) c = { c with properties := c.properties ++ ts } := by
  induction ts generalizing c with
  | nil => rw [List.foldl_nil, List.append_nil]
  | cons t ts ih => rw [List.foldl_cons, ih, List.append_assoc, List.singleton_append]

/-- The settings of a server are those of the connection to it, the properties in their order. -/
theorem connection_eq (s : ServerSettings) :
    s.connection = {
      host := s.host, port := s.port, user := s.user, password := s.password, properties := s.properties } :=
  foldl_property s.properties _

end ServerSettings

/-- How schemas become dumps. -/
structure DumpSettings where
  program : Text := "mysqldump"
  /-- Schema files are dumps already and need no server to load them. -/
  raw : Bool := false
  deriving DecidableEq, Repr

/-- What is logged, and where to: to a file if one is named, and else to the console if that is wanted. -/
structure LogSettings where
  level : Text := "warn"
  file : Option Text := none
  format : Text := "text"
  console : Bool := true
  deriving DecidableEq, Repr

/-- A configuration; without a word said it is the one for a local server. -/
structure Config where
  server : ServerSettings := {}
  dump : DumpSettings := {}
  log : LogSettings := {}
  deriving DecidableEq, Repr

end SchemaDrift
