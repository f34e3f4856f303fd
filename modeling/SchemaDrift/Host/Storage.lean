import SchemaDrift.Host.FileTree

namespace SchemaDrift

/-- What is open for writing: a file with the place where the next bytes go, unless they always go to
its end, or a device. -/
inductive Channel where
  | file (number offset : Nat) (appends : Bool)
  | device (d : Device)
  deriving DecidableEq, Repr

namespace FileTree

def put (t : FileTree) (l : Location) (e : FileEntry) : FileTree :=
  { t with entries := (l, e) :: t.entries.filter (·.1 ≠ l) }

/-- Puts a file where none is; it gets a number of its own. -/
def putFile (t : FileTree) (l : Location) (bytes : List UInt8) (executable : Bool) : FileTree :=
  { t.put l (.file t.next bytes executable) with next := t.next + 1 }

/-- Takes what lies at a location away, and all that lies below it. -/
def remove (t : FileTree) (l : Location) : FileTree :=
  { t with entries := t.entries.filter (!l.isPrefixOf ·.1) }

/-- Moves what lies at a location, with all that lies below it, to another one. -/
def move (t : FileTree) (l target : Location) : FileTree :=
  let (moved, others) := t.entries.partition (l.isPrefixOf ·.1)
  { t with
    entries := moved.map (fun (m, e) => (target ++ m.drop l.length, e)) ++
      others.filter (!target.isPrefixOf ·.1) }

/-- Where the entry lies that a path names itself, which may be a link. -/
def locateEntry (t : FileTree) (path : Text) : Except HostFault Location := do
  checkPath path
  if path.getLast? = some '/' then
    let l ← t.locate path
    if t.isDirectory l then return l else throw .notADirectory
  else
    let l ← t.place (t.start path) (path.splitOn '/')
    if (t.entry? l).isSome then return l else throw .noSuchFile

/-- Makes one directory. -/
def makeDirectory (t : FileTree) (l : Location) (names : List Text) : Except HostFault FileTree := do
  let l ← t.place l names
  if (t.entry? l).isSome then .error .fileExists else .ok (t.put l .directory)

/-- Makes the directory that the names lead to, last name first, and those above it which are missing. -/
def makeDirectories (t : FileTree) (l : Location) : List Text → Except HostFault FileTree
  | [] => .ok t
  | name :: up =>
    let names := (name :: up).reverse
    let orThere (t : FileTree) (e : HostFault) : Except HostFault FileTree :=
      match t.walk l names with
      | .ok l => if t.isDirectory l then .ok t else .error e
      | .error _ => .error e
    match t.makeDirectory l names with
    | .ok t => .ok t
    | .error .noSuchFile => do
      let t ← makeDirectories t l up
      match t.makeDirectory l names with
      | .ok t => .ok t
      | .error e => orThere t e
    | .error e => orThere t e

/-- The tree with other contents in the file of a number, wherever it lies. -/
def revise (t : FileTree) (number : Nat) (change : List UInt8 → List UInt8) : FileTree :=
  let changed : FileEntry → FileEntry
    | .file n bytes executable => .file n (if n = number then change bytes else bytes) executable
    | e => e
  { t with entries := t.entries.map fun (l, e) => (l, changed e) }

/-- Opens a file for writing, which is created if it is not there; `emptied` tells whether it loses what
it holds, and `appends` whether all that is written goes to its end. -/
def openFile (t : FileTree) (path : Text) (emptied appends : Bool) : Except HostFault (Channel × FileTree) := do
  checkPath path
  let names := path.splitOn '/'
  let inner := (names.reverse.dropWhile (· = [])).reverse
  if inner.length < names.length then
    let directory ← t.walk (t.start path) inner.dropLast
    if t.isDirectory directory then .error .isADirectory else .error .notADirectory
  else
    let l ← t.followed linkLimit (← t.place (t.start path) names)
    let created (executable : Bool) : Except HostFault (Channel × FileTree) :=
      .ok (.file t.next 0 appends, t.putFile l [] executable)
    match t.entry? l with
    | some (.file n _ _) => .ok (.file n 0 appends, if emptied then t.revise n (fun _ => []) else t)
    | some .directory => .error .isADirectory
    | some (.device d) => .ok (.device d, t)
    | some (.program _) => created true
    | some (.link _) | none => created false

/-- Creates a file, or empties it, and makes the directories above it where they are missing. -/
def create (t : FileTree) (path : Text) : Except HostFault (Channel × FileTree) := do
  checkPath path
  let t ← t.makeDirectories (t.start path) (pathNames path).dropLast.reverse
  t.openFile path true false

/-- The tree with an entry put at a path, and with the directories above it. -/
def install (t : FileTree) (path : Text) (e : FileEntry) : Except HostFault FileTree := do
  let t ← t.makeDirectories (t.start path) (pathNames path).dropLast.reverse
  let l ← t.place (t.start path) (pathNames path)
  match e with
  | .file _ bytes executable => return t.putFile l bytes executable
  | e => return t.put l e

/-- Bytes with others written over them from an offset on; what lies between is zero. -/
def overwritten (old : List UInt8) (offset : Nat) (bytes : List UInt8) : List UInt8 :=
  old.take offset ++ List.replicate (offset - old.length) 0 ++ bytes ++ old.drop (offset + bytes.length)

/-- Writes to what is open; the bytes for a device other than a full one go nowhere in the tree. -/
def write (t : FileTree) (c : Channel) (bytes : List UInt8) : Except HostFault (Channel × FileTree) :=
  match c with
  | .file number offset appends =>
    let t := t.revise number fun old => overwritten old (if appends then old.length else offset) bytes
    .ok (.file number (offset + bytes.length) appends, t)
  | .device .full => if bytes = [] then .ok (c, t) else .error .noSpace
  | .device _ => .ok (c, t)

end FileTree
end SchemaDrift
