import SchemaDrift.Posix.System
import SchemaDrift.Text.Blank

namespace SchemaDrift.Shell

/-- The program at a path. -/
def programAt (files : FileTree) (path : Text) : Except HostFault FileEntry := do
  match files.entry? (← files.locate path) with
  | none => .error .noSuchFile
  | some (.file n bytes true) => .ok (.file n bytes true)
  | some (.program name) => .ok (.program name)
  | some _ => .error .permissionDenied

/-- The path of the first program of that name in these directories. One that may not be run is
passed over, but counts if there is no other. -/
def search (files : FileTree) (name : Text) : List Text → Except HostFault Text
  | [] => .error .noSuchFile
  | directory :: rest =>
    let path := if directory = [] then name else directory ++ '/' :: name
    match programAt files path with
    | .ok _ => .ok path
    | .error .noSuchFile | .error .notADirectory => search files name rest
    | .error .permissionDenied =>
      match search files name rest with
      | .error .noSuchFile => .error .permissionDenied
      | r => r
    | .error f => .error f

/-- The path of the program that a name means: the name itself if there is a slash in it. -/
def find (files : FileTree) (directories : List Text) (name : Text) : Except HostFault Text :=
  if name = [] then .error .noSuchFile
  else if name.contains '/' then (programAt files name).map fun _ => name
  else search files name directories

/-- How many bytes at the front of a script may tell its interpreter, the end of the line among them. -/
def interpreterLimit : Nat := 256

/-- The interpreter that the first line of a script names, and what it is to get as its first argument. -/
def interpreter? (script : List UInt8) : Option (Text × Option Text) := do
  let isGap (c : Char) : Bool := c = ' ' || c = '\t'
  let isWhole := (script.take interpreterLimit).contains 10 || script.length < interpreterLimit
  let front := (script.take (interpreterLimit - 1)).takeWhile (· ≠ 10)
  let line := ((← Text.dropStart? "#!" (Utf8.decodeLossy front)).takeWhile (· ≠ '\x00')).dropWhile isGap
  let name := line.takeWhile (!isGap ·)
  if name = [] ∨ (name = line ∧ !isWhole) then none
  else
    let argument := Text.trimBoth isGap (line.drop name.length)
    return (name, if argument = [] then none else some argument)

/-- A program of the system that is to be run: its own name, the name it is called by, and its arguments. -/
structure Launch where
  program : Text
  called : Text
  arguments : List Text
  deriving DecidableEq, Repr

/-- How many programs may be interpreters of each other. -/
def interpreterDepth : Nat := 6

/-- What running the program at a path comes to: a script is an argument of its interpreter. -/
def launch? (depth : Nat) (files : FileTree) (path called : Text) (arguments : List Text) :
    Except HostFault Launch :=
  match depth with
  | 0 => .error .tooManyLinks
  | depth + 1 => do
    match ← programAt files path with
    | .program name => .ok ⟨name, called, arguments⟩
    | .file _ bytes _ =>
      match interpreter? bytes with
      | none => .error .notExecutable
      | some (name, argument) => launch? depth files name name (argument.toList ++ path :: arguments)
    | _ => .error .permissionDenied

end SchemaDrift.Shell
