import SchemaDrift.Host.Basic
import SchemaDrift.Posix.Shell.Run

/-! A system for hosts that have none of their own. The program leaves open what other programs do, and so does what is
proved about it: nothing of this is used there. -/

namespace SchemaDrift.Shell

/-- How many steps deep a script may get. -/
def stepLimit : Nat := 100000

/-- The length from which on an argument is too long for a program. -/
def argumentLimit : Nat := 131072

/-- The environment of an ordinary system. -/
def systemEnvironment : List (Text × Text) :=
  [("HOME", "/root"), ("PATH", List.intercalate ":" FileTree.programDirectories)]

/-- A state in which a program can be run: what it reads is empty, and its two outputs are collected. -/
def startingState (files : FileTree) (environment : List (Text × Text)) : State :=
  { files
    streams := [(0, .channel (.device .null) true false), (1, .reader []), (2, .reader [])]
    freeNumber := 3
    dialect := .dash
    name := []
    bindings := environment.map fun (n, v) => (n, { items := [(['0'], v)], exported := true })
    descriptors := [(0, 0), (1, 1), (2, 2)] }

/-- Executes a program as an ordinary system does. -/
def execute (files : FileTree) (i : Invocation) : Except HostFault Completion := do
  let settings := i.environment.map fun (name, v) => name ++ '=' :: v
  if (i.program :: i.arguments ++ settings).any (·.contains '\x00') then throw .nulInCommand
  let path ← find files FileTree.programDirectories i.program
  if (i.arguments ++ settings).any (fun t => argumentLimit ≤ (Utf8.encode t).length) then throw .argumentTooLong
  let _ ← launch? interpreterDepth files path i.program i.arguments
  let environment := i.environment ++ systemEnvironment
  let completed (status : ExitStatus) (s : State) : Completion :=
    ⟨status, s.toWorld.written 1, s.toWorld.written 2, { s.files with home := files.home }⟩
  match launch stepLimit 0 path i.program i.arguments environment none (startingState files environment) with
  | .ok (none, status) s => return completed status s
  | .ok (some f, _) _ => throw f
  | .error (.signal n) s => return completed (.signal n) s
  | .error _ s => return completed (.code s.status) s

/-- A host with an ordinary system and these files, some of which may be scripts to execute, and without a server. -/
def host (files : FileTree) : Host := { files, execute := fun files _ => execute files }

end SchemaDrift.Shell
