import SchemaDrift.Server.Port

namespace SchemaDrift

/-- How to reach a server, and as whom. -/
structure Connection where
  host : Text := "localhost"
  port : Port := Port.default
  user : Text := "root"
  password : Text := []
  properties : List Text := []
  deriving DecidableEq, Repr

/-- The port a server URL gives is no port number; `url` is the URL behind its scheme. -/
structure PortFault where
  port : Text
  url : Text
  reason : DecimalFault
  deriving DecidableEq, Repr

def PortFault.message (f : PortFault) : Text :=
  "Invalid port '" ++ f.port ++ "' in URL '" ++ f.url ++ "': " ++ f.reason.message

/-- One step in the description of a connection. -/
inductive ConnectionStep where
  | host (t : Text)
  | port (p : Port)
  | user (t : Text)
  | password (t : Text)
  | property (t : Text)
  | url (t : Text)
  deriving DecidableEq, Repr

/-- A URL without its scheme, which ends at the last `://` of the first line and is not empty. -/
def withoutScheme (url : Text) : Text :=
  match Text.fromFirst? "//:" (url.takeWhile (· ≠ '\n')).reverse with
  | none => url
  | some s => if s.length = 3 then url else url.drop s.length

/-- The parts of a server URL behind its scheme: the port is there if a colon is, and what follows
a second colon does not count. -/
structure ServerUrl where
  host : Text
  port : Option Text
  properties : List Text
  deriving DecidableEq, Repr

/-- Takes a URL without scheme apart. The path is ignored, and so are empty properties. -/
def ServerUrl.ofText (url : Text) : ServerUrl :=
  let origin := url.takeWhile (· ≠ '?')
  let query := (url.dropWhile (· ≠ '?')).drop 1
  let authority := origin.takeWhile (· ≠ '/')
  let pieces := authority.splitOn ':'
  { host := pieces.headD [], port := pieces[1]?, properties := (query.splitOn '&').filter (· ≠ []) }

namespace Connection

/-- Takes host, port and further properties from a server URL. -/
def withUrl (c : Connection) (url : Text) : Except PortFault Connection :=
  let rest := withoutScheme url
  let u := ServerUrl.ofText rest
  let located (port : Port) : Connection :=
    { c with host := u.host, port, properties := c.properties ++ u.properties }
  match u.port with
  | none => .ok (located c.port)
  | some t =>
    match Port.read t with
    | .ok port => .ok (located port)
    | .error reason => .error ⟨t, rest, reason⟩

def step (c : Connection) : ConnectionStep → Except PortFault Connection
  | .host t => .ok { c with host := t }
  | .port p => .ok { c with port := p }
  | .user t => .ok { c with user := t }
  | .password t => .ok { c with password := t }
  | .property t => .ok { c with properties := c.properties ++ [t] }
  | .url t => c.withUrl t

/-- The connection these steps describe, or the fault of the first failing one. -/
def ofSteps (steps : List ConnectionStep) : Except PortFault Connection := steps.foldlM step {}

/-- What each step of a run gives; a failing step leaves the connection as it was. -/
def run (c : Connection) : List ConnectionStep → List (Except PortFault Connection)
  | [] => []
  | s :: steps =>
    match c.step s with
    | .ok d => .ok d :: d.run steps
    | .error e => .error e :: c.run steps

/-- The properties as the query of a URL; without properties there is none. -/
def query (c : Connection) : Text :=
  if c.properties = [] then [] else "?" ++ List.intercalate "&" c.properties

/-- The server's URL, which never holds user or password. -/
def url (c : Connection) : Text := "mysql://" ++ c.host ++ ":" ++ c.port.text ++ c.query

/-- An option with its value glued to it, which an empty value does without. -/
def gluedOption (name value : Text) : List Text := if value = [] then [] else [name ++ value]

/-- The arguments that make the dump program write the schema of a database. The password is none of them. -/
def dumpArguments (c : Connection) (database : Text) : List Text :=
  "--no-data=true" :: database ::
    (gluedOption "-u" c.user ++ gluedOption "-h" c.host ++ [("-P" : Text) ++ c.port.text])

end Connection
end SchemaDrift
