import SchemaDrift.Server.Options

namespace SchemaDrift

/-- How to log in to a server. -/
structure Login where
  options : ConnectOptions
  password : Option Text := none
  deriving DecidableEq, Repr

namespace Connection

/-- The password to log in with: the connection's own, or else the one that its URL names. -/
def loginPassword (c : Connection) : Option Text :=
  if c.password = [] then
    match Url.read c.url with
    | .ok u => if u.password = [] then none else (ConnectOptions.credential u.password).toOption
    | .error _ => none
  else some c.password

def login (c : Connection) : Except ConnectFault Login :=
  c.connectOptions.map fun options => { options, password := c.loginPassword }

end Connection

/-- What a server is asked to do. A connection goes by the number of calls before the one that opened it. -/
inductive ServerCall where
  | connect (l : Login)
  | execute (connection : Nat) (sql : Text)
  | close (connection : Nat)
  deriving DecidableEq, Repr

/-- A call as it is remembered, which is without its password. -/
def ServerCall.remembered : ServerCall → ServerCall
  | .connect l => .connect { l with password := none }
  | call => call

/-- Why a call to a server fails: what is said of it, and of what lies behind it. -/
structure ServerFault where
  message : Text
  causes : List Text := []
  deriving DecidableEq, Repr

/-- Nothing listens where the server should be. -/
def ServerFault.refused : ServerFault where
  message := "error communicating with database: Connection refused (os error 111)"
  causes := ["Connection refused (os error 111)"]

/-- A remembered call, and why it failed if it did. -/
structure Exchange where
  call : ServerCall
  fault : Option ServerFault
  deriving DecidableEq, Repr

end SchemaDrift
