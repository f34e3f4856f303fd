import SchemaDrift.Host.Fault
import SchemaDrift.Text.Utf8

namespace SchemaDrift

/-- A device: what is written to it goes nowhere, is refused, or goes to an output of the run. -/
inductive Device where
  | null
  | full
  | input
  | output
  | errors
  deriving DecidableEq, Repr

/-- What lies in a tree. -/
inductive FileEntry where
  /-- A file. It keeps its number wherever it is moved, and entries of one number are one file. -/
  | file (number : Nat) (bytes : List UInt8) (executable : Bool)
  | directory
  /-- Another way to what lies at a path. -/
  | link (path : Text)
  /-- A program of the system, known by its name. -/
  | program (name : Text)
  | device (d : Device)
  deriving DecidableEq, Repr

/-- Where an entry lies: the names on the way down from the root. -/
abbrev Location := List Text

/-- Files and directories, the later ones first; the directory that relative paths start from; and the
number that the next new file gets. -/
structure FileTree where
  entries : List (Location × FileEntry)
  home : Location
  next : Nat := 1
  deriving DecidableEq, Repr

namespace FileTree

/-- A tree that holds nothing but an empty working directory. -/
def empty (home : Location) : FileTree :=
  { entries := (List.range home.length).map fun n => (home.take (n + 1), .directory), home }

/-- What lies at a location; the root is a directory. -/
def entry? (t : FileTree) (l : Location) : Option FileEntry :=
  if l = [] then some .directory else t.entries.lookup l

def isDirectory (t : FileTree) (l : Location) : Bool := t.entry? l = some .directory

def isNameTooLong (name : Text) : Bool := 255 < (Utf8.encode name).length

/-- How many links one path may lead through. -/
def linkLimit : Nat := 40

/-- Goes down a path by the names between its slashes, through at most `links` links. Every name but
the last has to lead to a directory; an empty name and a dot stay there, and two dots go up. -/
def walkThrough (links : Nat) (t : FileTree) (l : Location) : List Text → Except HostFault Location
  | [] => .ok l
  | name :: rest =>
    if !t.isDirectory l then .error .notADirectory
    else if name = [] ∨ name = "." then walkThrough links t l rest
    else if name = ".." then walkThrough links t l.dropLast rest
    else if isNameTooLong name then .error .nameTooLong
    else
      match t.entry? (l ++ [name]), links with
      | none, _ => .error .noSuchFile
      | some (.link _), 0 => .error .tooManyLinks
      | some (.link path), links + 1 =>
        walkThrough links t (if path.head? = some '/' then [] else l) (path.splitOn '/' ++ rest)
      | some _, links => walkThrough links t (l ++ [name]) rest
termination_by names => (links, names.length)

def walk (t : FileTree) (l : Location) (names : List Text) : Except HostFault Location :=
  walkThrough linkLimit t l names

/-- Where a path starts. -/
def start (t : FileTree) (path : Text) : Location := if path.head? = some '/' then [] else t.home

/-- Refuses what no path can be. -/
def checkPath (path : Text) : Except HostFault Unit :=
  if path.contains '\x00' then .error .nulInPath
  else if path = [] then .error .noSuchFile
  else if 4096 ≤ (Utf8.encode path).length then .error .nameTooLong
  else .ok ()

/-- The location a path leads to. -/
def locate (t : FileTree) (path : Text) : Except HostFault Location := do
  checkPath path
  t.walk (t.start path) (path.splitOn '/')

/-- What a path leads to, if it leads anywhere. -/
def find? (t : FileTree) (path : Text) : Option FileEntry :=
  match t.locate path with
  | .ok l => t.entry? l
  | .error _ => none

def pathExists (t : FileTree) (path : Text) : Bool := (t.find? path).isSome

def read (t : FileTree) (path : Text) : Except HostFault (List UInt8) := do
  match t.entry? (← t.locate path) with
  | some (.file _ bytes _) => .ok bytes
  | some .directory => .error .isADirectory
  | some (.program _) => .error .notText
  | some (.device _) => .ok []
  | some (.link _) | none => .error .noSuchFile

/-- The text of a file. -/
def readText (t : FileTree) (path : Text) : Except HostFault Text := do
  (Utf8.decode (← t.read path)).mapError fun _ => .notText

/-- Where a name in a directory lies. -/
def child (t : FileTree) (directory : Location) (name : Text) : Except HostFault Location :=
  if !t.isDirectory directory then .error .notADirectory
  else if name = [] ∨ name = "." then .ok directory
  else if name = ".." then .ok directory.dropLast
  else if isNameTooLong name then .error .nameTooLong
  else .ok (directory ++ [name])

/-- Where a new entry would come to lie: the names lead to its directory and then name it. -/
def place (t : FileTree) (l : Location) (names : List Text) : Except HostFault Location := do
  t.child (← t.walk l names.dropLast) (names.getLastD [])

/-- Where the links that start at a location end, be there an entry or not. -/
def followed (links : Nat) (t : FileTree) (l : Location) : Except HostFault Location :=
  match t.entry? l, links with
  | some (.link _), 0 => .error .tooManyLinks
  | some (.link path), links + 1 => do
    followed links t (← t.place (if path.head? = some '/' then [] else l.dropLast) (path.splitOn '/'))
  | _, _ => .ok l

/-- The names in a path that move along it: dots count only where a relative path starts with one. -/
def pathNames (path : Text) : List Text :=
  let names := path.splitOn '/'
  names.take 1 |>.filter (· ≠ []) |>.append ((names.drop 1).filter fun n => n ≠ [] && n ≠ ".")

/-- The names in a directory, in their order. -/
def namesIn (t : FileTree) (directory : Location) : List Text :=
  (t.entries.filterMap fun (l, _) => if l.dropLast = directory then l.getLast? else none).mergeSort
    Text.inOrder

/-- The files under the working directory, by their paths relative to it; a link leads to a file or to nothing. -/
def filesAtHome (t : FileTree) : List (Text × List UInt8) :=
  t.entries.filterMap fun (l, e) =>
    if t.home.isPrefixOf l then
      let path : Text := List.intercalate "/" (l.drop t.home.length)
      match e with
      | .file _ bytes _ => some (path, bytes)
      | .program _ => some (path, [])
      | .link _ =>
        match t.walk [] l with
        | .ok target => if t.isDirectory target then none else some (path, (t.read path).toOption.getD [])
        | .error _ => some (path, [])
      | .directory | .device _ => none
    else none

end FileTree
end SchemaDrift
