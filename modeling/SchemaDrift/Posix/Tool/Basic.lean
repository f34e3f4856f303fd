import SchemaDrift.Host.Storage
import SchemaDrift.Posix.Text.Bytes

namespace SchemaDrift

/-- What a program of the system finds around it: the files, its environment, what it can read, and whether it
reads that from a file; and the numbers of the files that its input and its output lead to. -/
structure Surroundings where
  files : FileTree
  environment : List (Text × Text) := []
  input : List UInt8 := []
  readsFile : Bool := false
  inputFile : Option Nat := none
  outputFile : Option Nat := none

/-- What a program does: its exit code, what it writes to which output, in turn, the files it leaves if it
changes any, and what it leaves of its input if it takes any of it. -/
structure Effect where
  status : Nat := 0
  writes : List (Nat × List UInt8) := []
  files : Option FileTree := none
  rest : Option (List UInt8) := none

namespace Effect

def output (bytes : List UInt8) : Effect := { writes := [(1, bytes)] }

/-- Writes a line. -/
def line (t : Text) : Effect := output (Utf8.encode (t ++ ['\n']))

/-- Writes a message to the error output. -/
def complaint (status : Nat) (message : Text) : Effect :=
  { status, writes := [(2, Utf8.encode (message ++ ['\n']))] }

/-- What follows what was done before, with the graver exit code. -/
def andThen (a b : Effect) : Effect :=
  { status := max a.status b.status, writes := a.writes ++ b.writes, files := b.files.or a.files,
    rest := b.rest.or a.rest }

/-- The same with its errors written first, as a program does that holds its output back. -/
def errorsFirst (e : Effect) : Effect :=
  let (errors, others) := e.writes.partition (·.1 = 2)
  { e with writes := errors ++ others }

end Effect

namespace Tool

/-- The reason of a fault without its number. -/
def reason (f : HostFault) : Text := (f.message.takeWhile (· ≠ '(')).dropLast

/-- Whether a character in a name means something to a shell. -/
def isSpecial (c : Char) : Bool :=
  [' ', '\t', '\n', '!', '"', '$', '&', '\'', '(', ')', '*', ';', '<', '=', '>', '[', '\\', '^', '\x60', '|', '?'].contains c

/-- A name between quotes, as a shell would read it. -/
def quoted (name : Text) : Text :=
  if !name.contains '\'' then "'" ++ name ++ "'"
  else if name.any fun c => ['"', '$', '\\', '\x60', '!'].contains c then
    "'" ++ name.flatMap (fun c => if c = '\'' then "'\\''".toList else [c]) ++ "'"
  else "\"" ++ name ++ "\""

/-- A name between quotes if it needs them. -/
def shown (name : Text) : Text :=
  if name = [] ∨ name.any isSpecial ∨ ['#', '~'].any (name.head? = some ·) then quoted name else name

/-- What a program says that is used in a way it does not know. -/
def misuse (called message : Text) (status : Nat := 1) : Effect :=
  .complaint status (called ++ ": " ++ message ++ "\nTry '" ++ called ++ " --help' for more information.")

/-- What an operand names: a path with what can be read there. -/
structure Content where
  path : Text
  bytes : Except HostFault Text

/-- What is read at a path; a minus sign means the input. -/
def read (around : Surroundings) (path : Text) : Except HostFault Text :=
  if path = "-" ∨ path = "/dev/stdin" ∨ path = "/dev/fd/0" then .ok (Bytes.toText around.input)
  else (around.files.read path).map Bytes.toText

/-- What is read at these paths, or from the input if there are none. -/
def contents (around : Surroundings) (paths : List Text) : List Content :=
  (if paths = [] then [['-']] else paths).map fun path => ⟨path, read around path⟩

/-- Whether operands make a program read its input. -/
def readsInput (paths : List Text) : Bool :=
  paths = [] || paths.any fun p => p = "-" || p = "/dev/stdin" || p = "/dev/fd/0"

/-- What is left of the input of a program that reads to the end. -/
def usedInput (paths : List Text) : Option (List UInt8) := if readsInput paths then some [] else none

/-- Says of a file why it cannot be read. -/
def unread (called : Text) (c : Content) (f : HostFault) (status : Nat := 1) : Effect :=
  .complaint status (called ++ ": " ++ shown c.path ++ ": " ++ reason f)

/-- Says the same in the way of the programs that tell opening from reading. -/
def unopened (called : Text) (c : Content) (f : HostFault) : Effect :=
  .complaint 1 (called ++
    if f = .isADirectory then ": error reading " ++ quoted c.path ++ ": " ++ reason f
    else ": cannot open " ++ quoted c.path ++ " for reading: " ++ reason f)

/-- Joins what a program does with the contents of its operands. -/
def forEach (cs : List Content) (refused : Content → HostFault → Effect) (use : Content → Text → Effect) : Effect :=
  cs.foldl (fun e c =>
    e.andThen (match c.bytes with
      | .ok t => use c t
      | .error f => refused c f)) {}

/-- All that can be read of some contents, and the complaints about the others. -/
def gathered (called : Text) (cs : List Content) : Text × Effect :=
  (cs.flatMap fun c => c.bytes.toOption.getD [], forEach cs (unread called ·) fun _ _ => {})

end Tool
end SchemaDrift
