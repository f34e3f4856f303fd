import SchemaDrift.Text.Quoted
import SchemaDrift.Server.Url

namespace SchemaDrift

inductive SslMode where
  | disabled
  | preferred
  | required
  | verifyCa
  | verifyIdentity
  deriving DecidableEq, Repr

/-- The mode a property value names, in any case. -/
def SslMode.ofText? (t : Text) : Option SslMode :=
  [(("disabled" : Text), SslMode.disabled), ("preferred", .preferred), ("required", .required),
    ("verify_ca", .verifyCa), ("verify_identity", .verifyIdentity)].lookup (t.map Char.toLower)

/-- What a client uses to open a connection. -/
structure ConnectOptions where
  host : Text := "localhost"
  port : Port := Port.default
  user : Text := "root"
  socket : Option Text := none
  database : Option Text := none
  sslMode : SslMode := .preferred
  charset : Text := "utf8mb4"
  collation : Option Text := none
  deriving DecidableEq, Repr

/-- Why a server URL gives no connect options. -/
inductive OptionsFault where
  | url (reason : UrlFault)
  | credentials (reason : Utf8Fault)
  | sslMode (value : Text)
  | capacity (reason : DecimalFault)
  deriving DecidableEq, Repr

def OptionsFault.message (f : OptionsFault) : Text :=
  "error with configuration: " ++
    match f with
    | .url reason => reason.message
    | .credentials reason => reason.message
    | .sslMode value => "error with configuration: unknown value " ++ Text.quoted value ++ " for `ssl_mode`"
    | .capacity reason => reason.message

namespace ConnectOptions

/-- The greatest capacity a statement cache may have. -/
def maxCapacity : Nat := 2 ^ 64 - 1

/-- Takes a property into account; one of an unknown name has no effect. -/
def withProperty (o : ConnectOptions) (property : Text × Text) : Except OptionsFault ConnectOptions :=
  let (name, value) := property
  if name = "ssl-mode" ∨ name = "sslmode" then
    match SslMode.ofText? value with
    | some mode => .ok { o with sslMode := mode }
    | none => .error (.sslMode value)
  else if name = "charset" then .ok { o with charset := value }
  else if name = "collation" then .ok { o with collation := some value }
  else if name = "socket" then .ok { o with socket := some value }
  else if name = "statement-cache-capacity" then
    match Decimal.read maxCapacity value with
    | .ok _ => .ok o
    | .error reason => .error (.capacity reason)
  else .ok o

/-- The text that escaped credentials stand for. -/
def credential (t : Text) : Except OptionsFault Text := (Utf8.decode (Percent.decode t)).mapError .credentials

/-- The options a URL asks for; credentials have to be readable, though the user is given elsewhere. -/
def ofUrl (u : Url) : Except OptionsFault ConnectOptions := do
  let _ ← credential u.user
  let _ ← credential u.password
  let database := u.path.dropWhile (· = '/')
  let options : ConnectOptions := {
    host := if u.host = [] then "localhost" else u.host
    port := u.port.getD Port.default
    database := if database = [] then none else some database
  }
  (Percent.formPairs u.query).foldlM withProperty options

end ConnectOptions

/-- A connection's URL gives no connect options. -/
structure ConnectFault where
  url : Text
  reason : OptionsFault
  deriving DecidableEq, Repr

def ConnectFault.message (f : ConnectFault) : Text :=
  "Invalid connection URL '" ++ f.url ++ "': " ++ f.reason.message

/-- The options to connect with: the URL decides all but the user. -/
def Connection.connectOptions (c : Connection) : Except ConnectFault ConnectOptions :=
  let options := do
    let u ← (Url.read c.url).mapError OptionsFault.url
    ConnectOptions.ofUrl u
  match options with
  | .ok o => .ok { o with user := c.user }
  | .error reason => .error ⟨c.url, reason⟩

end SchemaDrift
