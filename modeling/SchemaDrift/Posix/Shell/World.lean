import SchemaDrift.Host.Storage

namespace SchemaDrift.Shell

/-- What is open for reading or writing. -/
inductive Stream where
  | channel (c : Channel) (reads writes : Bool)
  /-- Bytes that are there to be read. -/
  | supply (bytes : List UInt8)
  /-- What somebody else reads, the last part first. -/
  | reader (parts : List (List UInt8))
  deriving Repr

/-- What all programs of a run share: the files and what is open, each under a number of its own. -/
structure World where
  files : FileTree
  streams : List (Nat × Stream) := []
  freeNumber : Nat := 0
  deriving Repr

namespace World

def addStream (w : World) (s : Stream) : World :=
  { w with streams := (w.freeNumber, s) :: w.streams, freeNumber := w.freeNumber + 1 }

def setStream (w : World) (n : Nat) (s : Stream) : World :=
  { w with streams := w.streams.map fun (m, t) => (m, if m = n then s else t) }

/-- Why nothing can be written or read there. -/
inductive StreamFault where
  | notOpen
  | host (f : HostFault)
  deriving DecidableEq, Repr

def StreamFault.message : StreamFault → Text
  | .notOpen => "Bad file descriptor"
  | .host f => (f.message.takeWhile (· ≠ '(')).dropLast

def write (w : World) (n : Nat) (bytes : List UInt8) : Except StreamFault World :=
  match w.streams.lookup n with
  | some (.channel c reads true) =>
    match w.files.write c bytes with
    | .ok (c, files) => .ok ({ w with files }.setStream n (.channel c reads true))
    | .error f => .error (.host f)
  | some (.reader parts) => .ok (if bytes = [] then w else w.setStream n (.reader (bytes :: parts)))
  | _ => .error .notOpen

/-- The bytes of the file of a number. -/
def bytesOf (w : World) (number : Nat) : List UInt8 :=
  (w.files.entries.findSome? fun (_, e) => match e with
    | .file n bytes _ => if n = number then some bytes else none
    | _ => none).getD []

/-- All that can be read there, and whether it is a file, which can be read in parts. -/
def readable (w : World) (n : Nat) : Except StreamFault (List UInt8 × Bool) :=
  match w.streams.lookup n with
  | some (.channel (.file number offset _) true _) => .ok ((w.bytesOf number).drop offset, true)
  | some (.channel (.device _) true _) => .ok ([], true)
  | some (.supply bytes) => .ok (bytes, false)
  | _ => .error .notOpen

/-- The world once so much is left of what could be read there. -/
def leave (w : World) (n : Nat) (rest : List UInt8) : World :=
  match w.streams.lookup n with
  | some (.channel (.file number _ appends) reads writes) =>
    w.setStream n (.channel (.file number ((w.bytesOf number).length - rest.length) appends) reads writes)
  | some (.supply _) => w.setStream n (.supply rest)
  | _ => w

/-- What has been written for a reader. -/
def written (w : World) (n : Nat) : List UInt8 :=
  match w.streams.lookup n with
  | some (.reader parts) => parts.reverse.flatten
  | _ => []

/-- The world without the streams that nothing leads to any more, of those from a number on. -/
def withoutUnused (w : World) (start : Nat) (used : Nat → Bool) : World :=
  { w with streams := w.streams.filter fun (n, _) => n < start || used n }

end World
end SchemaDrift.Shell
