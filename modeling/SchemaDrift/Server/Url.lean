import SchemaDrift.Text.Blank
import SchemaDrift.Server.Connection
import SchemaDrift.Server.Ipv6

namespace SchemaDrift

/-- Why a text is no URL of a server. -/
inductive UrlFault where
  | emptyHost
  | invalidHostCharacter
  | invalidIpv6
  | invalidPort
  deriving DecidableEq, Repr

def UrlFault.message : UrlFault → Text
  | .emptyHost => "empty host"
  | .invalidHostCharacter => "invalid domain character"
  | .invalidIpv6 => "invalid IPv6 address"
  | .invalidPort => "invalid port number"

/-- The parts of a server's URL behind its scheme, as a URL reader sees them. User, password and query
are as written; host and path are escaped. -/
structure Url where
  user : Text
  password : Text
  host : Text
  port : Option Port
  path : Text
  query : Text
  deriving DecidableEq, Repr

namespace Url

/-- What a URL reader reads of a text: no code points up to the space at its ends, and nowhere a tab
or a line break. -/
def visible (t : Text) : Text :=
  (Text.trimBoth (·.toNat ≤ 0x20) t).filter fun c => c ≠ '\t' && c ≠ '\n' && c ≠ '\r'

def endsAuthority (c : Char) : Bool := c = '/' || c = '?' || c = '#'

/-- The text in front of the last at sign and the text behind it, which is all of a text without one. -/
def splitUser (authority : Text) : Option Text × Text :=
  match Text.beforeLast? '@' authority with
  | none => (none, authority)
  | some user => (some user, authority.drop (user.length + 1))

/-- The host at the front, which a colon ends unless it stands in brackets. -/
def hostPart (bracketed : Bool) : Text → Text
  | [] => []
  | c :: r =>
    if c = ':' && !bracketed then []
    else c :: hostPart (if c = '[' then true else if c = ']' then false else bracketed) r

def isForbiddenInHost (c : Char) : Bool :=
  ['\x00', ' ', '<', '>', '@', '[', '\\', ']', '^', '|', ':'].contains c

/-- The host as the URL gives it: an address in brackets, or a name with its controls and its
characters outside of ASCII escaped. -/
def readHost (t : Text) : Except UrlFault Text :=
  match t with
  | '[' :: r =>
    if r.getLast? = some ']' then
      match Ipv6.address? r.dropLast with
      | some gs => .ok ("[" ++ Ipv6.text gs ++ "]")
      | none => .error .invalidIpv6
    else .error .invalidIpv6
  | t => if t.any isForbiddenInHost then .error .invalidHostCharacter else .ok (Percent.encode Percent.isControl t)

/-- The port at the front of what follows a colon, and the text behind it. -/
def readPort (t : Text) : Except UrlFault (Option Port × Text) :=
  let digits := t.takeWhile Char.isDigit
  let rest := t.dropWhile Char.isDigit
  if rest = [] || rest.head?.any (fun c => endsAuthority c || c = '\\') then
    if digits = [] then .ok (none, rest)
    else match Port.read digits with
      | .ok p => .ok (some p, rest)
      | .error _ => .error .invalidPort
  else .error .invalidPort

/-- Whether a segment is the letter of a drive, which no path leaves. -/
def isDrive (s : Text) : Bool :=
  match s with
  | letter :: mark :: rest => letter.isAlpha && (mark = ':' || mark = '|') && (rest = [] || rest.head? = some '\\')
  | _ => false

/-- The segments above, the last one first, that two dots leave. -/
def ascend : List Text → List Text
  | [] => []
  | s :: up => if isDrive s then s :: up else up

/-- One step down a path: a segment of one dot stays, one of two dots goes up, and where such a
segment is the last one an empty one takes its place. -/
def descend (up : List Text) : List Text → List Text
  | [] => up.reverse
  | s :: rest =>
    let plain := (s.map Char.toLower)
    let dots := [("." : Text), "%2e"].contains plain
    let twoDots := [(".." : Text), "%2e.", ".%2e", "%2e%2e"].contains plain
    let up := if twoDots then ascend up else if dots then up else s :: up
    descend (if rest = [] && (dots || twoDots) then [] :: up else up) rest

/-- The path with its dot segments resolved; it is empty or starts with a slash. -/
def readPath (t : Text) : Text :=
  match t with
  | [] => []
  | t =>
    let segments := (if t.head? = some '/' then t.drop 1 else t).splitOn '/'
    "/" ++ List.intercalate "/" (descend [] (segments.map (Percent.encode Percent.isPathEscaped)))

/-- The scheme of a server's URL. -/
def scheme : Text := "mysql://"

/-- Takes a URL of that scheme apart. -/
def read (url : Text) : Except UrlFault Url := do
  let t := (visible url).drop scheme.length
  let authority := t.takeWhile (!endsAuthority ·)
  let rest := t.dropWhile (!endsAuthority ·)
  let (credentials, located) := splitUser authority
  if credentials = some [] && located = [] && rest ≠ [] then throw .emptyHost
  let user := (credentials.getD []).takeWhile (· ≠ ':')
  let password := ((credentials.getD []).dropWhile (· ≠ ':')).drop 1
  let hostText := hostPart false located
  let host ← readHost hostText
  let behind := located.drop hostText.length ++ rest
  let isPort := behind.head? = some ':'
  if host = [] && isPort then throw .emptyHost
  let (port, rest) ← if isPort then readPort (behind.drop 1) else pure (none, behind)
  if host = [] && (user ≠ [] || password ≠ []) then throw .emptyHost
  let path := rest.takeWhile fun c => c ≠ '?' && c ≠ '#'
  let query := (rest.drop path.length).takeWhile (· ≠ '#')
  return { user, password, host, port, path := readPath path, query := query.drop 1 }

end Url
end SchemaDrift
