import SchemaDrift.Host.ExitStatus
import SchemaDrift.Posix.Shell.Variable
import SchemaDrift.Posix.Shell.World
import SchemaDrift.Posix.Tool.Basic

namespace SchemaDrift.Shell

/-- Why the commands that follow do not run. -/
inductive Stop where
  | exit
  | signal (n : Nat)
  /-- The end of so many loops. -/
  | leave (loops : Nat)
  /-- The next turn of a loop, and the end of those within it. -/
  | again (loops : Nat)
  /-- The end of a command that the script itself has given a name. -/
  | finish
  /-- The end of what stands on the line. -/
  | abandon
  deriving DecidableEq, Repr

/-- What a running script has for itself. -/
structure Process where
  dialect : Dialect
  /-- What the script is called. -/
  name : Text
  arguments : List Text := []
  bindings : Variables := []
  commands : List (Text × Command) := []
  /-- For each command under way that the script itself has given a name, what local variables were before. -/
  frames : List (List (Text × Option Variable)) := []
  /-- The numbers of what inputs and outputs lead to. -/
  descriptors : List (Nat × Nat) := []
  /-- The options that are set, by their letters. -/
  letters : List Char := []
  /-- The options that are set and have no letter. -/
  settings : List Text := []
  /-- What is run on a signal, or at the end. -/
  traps : List (Text × Text) := []
  /-- The signals that have come and not been dealt with, last one first. -/
  pending : List Nat := []
  status : Nat := 0
  line : Nat := 0
  /-- Who speaks in the messages of the plain shell. -/
  speaker : Option Text := none
  /-- The file that commands come from, in the messages of the other shell. -/
  source : Option Text := none
  /-- How many texts are run within each other. -/
  depth : Nat := 0
  /-- How many loops are under way. -/
  loops : Nat := 0
  /-- A failure is only looked at. -/
  guarded : Bool := false
  /-- It runs apart from the script that it is a part of. -/
  isApart : Bool := false
  /-- How the commands ended that read from each other, if the last command was made up of some. -/
  stages : List Nat := []
  /-- The names of the commands under way that the script itself has given them, last one first. -/
  callers : List Text := []
  /-- How the last captured command ended. -/
  captured : Option Nat := none
  /-- How many commands have been run on their own. -/
  jobs : Nat := 0
  /-- How commands ended that were run on their own and are waited for. -/
  ended : List (Nat × Nat) := []
  /-- Where the reading of options has come to within an argument. -/
  optionOffset : Nat := 0
  /-- The programs that have been found by their names. -/
  found : List Text := []
  /-- The permissions that new files do not get. -/
  mask : Text := "0022"

/-- A running script and the world around it. -/
structure State extends World, Process

/-- What a script does. -/
abbrev Act : Type → Type := EStateM Stop State

/-- The number a script knows itself by. -/
def ownNumber : Nat := 4711

namespace Act

def writeTo (n : Option Nat) (bytes : List UInt8) : Act (Option World.StreamFault) := do
  let s ← get
  match n with
  | none => return some .notOpen
  | some n =>
    match s.toWorld.write n bytes with
    | .ok w => do
      set { s with toWorld := w }
      return none
    | .error f => return some f

/-- Writes to an output; gives the reason if that is not possible. -/
def emit (output : Nat) (bytes : List UInt8) : Act (Option World.StreamFault) := do
  writeTo ((← get).descriptors.lookup output) bytes

/-- Writes a text to the error output as far as that is possible. -/
def say (t : Text) : Act Unit := do
  let _ ← emit 2 (Utf8.encode t)

/-- What stands in front of messages. -/
def origin : Act Text := do
  let s ← get
  match s.dialect with
  | .dash =>
    let speaker : Text := match s.speaker with
      | some t => t ++ ": "
      | none => []
    return s.name ++ ": " ++ Text.ofNat s.line ++ ": " ++ speaker
  | .bash => return s.source.getD s.name ++ ": line " ++ Text.ofNat s.line ++ ": "

def complain (message : Text) : Act Unit := do
  say ((← origin) ++ message ++ ['\n'])

def setStatus (status : Nat) : Act Unit := modify fun s => { s with status }

/-- Says what is wrong and ends the script. -/
def giveUp {α : Type} (message : Text) (status : Nat := 2) : Act α := do
  complain message
  setStatus status
  throw .exit

/-- Says what is wrong; the plain shell ends the script, and the other one the line at hand. -/
def abandon {α : Type} (message : Text) : Act α := do
  match (← get).dialect with
  | .dash => giveUp message
  | .bash => do
    complain message
    setStatus 1
    throw .abandon

def isPlain : Act Bool := return (← get).dialect = .dash

/-- The words for a dialect. -/
def worded {α : Type} (dash bash : α) : Act α := return if ← isPlain then dash else bash

end Act

namespace State

def isPlain (s : State) : Bool := s.dialect = .dash

/-- The letters of the options that are set, as the script sees them. -/
def shownLetters (s : State) : Text :=
  match s.dialect with
  | .dash => "efICnuvxabm".toList.filter s.letters.contains
  | .bash => "abefhkmnptuvxBCEHPT".toList.filter fun c => s.letters.contains c || c = 'h' || c = 'B'

/-- The values of a variable of the shell itself. -/
def ownValue? (s : State) (name : Text) : Option Text :=
  if name = "LINENO" then if s.isPlain then none else some (Text.ofNat s.line)
  else if name = "PPID" then some (Text.ofNat (ownNumber - 1))
  else if s.isPlain then none
  else if name = "UID" ∨ name = "EUID" then some ['0']
  else if name = "BASHPID" then some (Text.ofNat ownNumber)
  else if name = "RANDOM" then some (Text.ofNat (ownNumber + s.freeNumber))
  else if name = "SECONDS" ∨ name = "SHLVL" ∨ name = "BASH_SUBSHELL" then
    some (if name = "SHLVL" then ['1'] else if name = "BASH_SUBSHELL" ∧ s.isApart then ['1'] else ['0'])
  else if name = "BASH" then some "/bin/bash"
  else if name = "BASH_VERSION" then some "5.2.15(1)-release"
  else if name = "HOSTNAME" then some "localhost"
  else if name = "HOSTTYPE" ∨ name = "MACHTYPE" then some "x86_64"
  else if name = "OSTYPE" then some "linux-gnu"
  else none

/-- The values of a list of the shell itself. -/
def ownList (s : State) (name : Text) : List Text :=
  if s.isPlain then []
  else if name = "PIPESTATUS" then (if s.stages = [] then [s.status] else s.stages).map Text.ofNat
  else if name = "FUNCNAME" then if s.callers = [] then [] else s.callers ++ ["main".toList]
  else if name = "BASH_SOURCE" then List.replicate (s.callers.length + 1) (s.source.getD s.name)
  else []

/-- The value of a parameter, if it has one. -/
def value? (s : State) (name : Text) : Option Text :=
  match name with
  | ['#'] => some (Text.ofNat s.arguments.length)
  | ['?'] => some (Text.ofNat s.status)
  | ['$'] => some (Text.ofNat ownNumber)
  | ['!'] => if s.jobs = 0 then none else some (Text.ofNat (ownNumber + s.jobs))
  | ['-'] => some s.shownLetters
  | ['0'] => some s.name
  | ['@'] | ['*'] => if s.arguments = [] then none else some (List.intercalate " " s.arguments)
  | _ =>
    if name.all Char.isDigit then ((Decimal.read 99999 name).toOption).bind fun n => s.arguments[n - 1]?
    else
      match s.bindings.lookup name with
      | some v => v.value? ['0']
      | none => (s.ownValue? name).orElse fun _ => (s.ownList name).head?

/-- What divides words: the value of the variable for it, or blanks. -/
def divider (s : State) : Text :=
  (Variables.value? s.bindings "IFS").getD " \t\n"

/-- What joins several values into one. -/
def joiner (s : State) : Text := s.divider.take 1

/-- The surroundings that a program of the system finds. -/
def environment (s : State) : List (Text × Text) := Variables.environment s.bindings

/-- The directories where programs are looked for. -/
def searchPath (s : State) : List Text := ((Variables.value? s.bindings "PATH").getD []).splitOn ':'

end State

namespace Act

def setVariable (name : Text) (v : Variable) : Act Unit :=
  modify fun s => { s with bindings := Variables.set s.bindings name v }

/-- Refuses to change what is only to be read. -/
def checkWritable (name : Text) : Act Unit := do
  let s ← get
  if (Variables.get s.bindings name).readOnly then
    if s.isPlain then giveUp (name ++ ": is read only")
    else do
      complain (name ++ ": readonly variable")
      setStatus 1
      throw .abandon

/-- Gives a plain value to a name. -/
def assign (name value : Text) : Act Unit := do
  checkWritable name
  let s ← get
  let v := Variables.get s.bindings name
  let v := v.put ['0'] value
  setVariable name (if s.letters.contains 'a' then { v with exported := true } else v)

/-- Leads a descriptor to something new that is open. -/
def openAs (descriptor : Nat) (stream : Stream) : Act Unit :=
  modify fun s =>
    { s with
      toWorld := s.toWorld.addStream stream
      descriptors := (descriptor, s.freeNumber) :: s.descriptors.filter (·.1 ≠ descriptor) }

/-- Lets descriptors lead to where they led before. -/
def restore (before : List (Nat × Nat)) (changed : List Nat) (start : Nat) : Act Unit :=
  modify fun s =>
    let kept := s.descriptors.filter fun (d, _) => !changed.contains d
    let descriptors := (before.filter fun (d, _) => changed.contains d) ++ kept
    { s with
      toWorld := s.toWorld.withoutUnused start fun n => descriptors.any (·.2 = n) || before.any (·.2 = n)
      descriptors }

/-- Runs something apart: what it changes in itself is gone behind it, and only a signal ends more than it.
Gives what has been written for the reader it opens, if it opens one. -/
def apart (act : Act Unit) : Act Unit := fun s =>
  let inside : State := { s with isApart := true, loops := 0, traps := s.traps.filter fun (_, action) => action = [] }
  let finished (t : State) : State :=
    { s with
      files := { t.files with home := s.files.home }
      streams := t.streams.filter (·.1 < s.freeNumber)
      freeNumber := s.freeNumber
      status := t.status }
  match act inside with
  | .ok _ t => .ok () (finished t)
  | .error (.signal n) t => .error (.signal n) (finished t)
  | .error _ t => .ok () (finished t)

/-- Runs something apart, and gives what it writes. -/
def capture (act : Act Unit) : Act (List UInt8) := fun s =>
  let inside : State :=
    { s with
      toWorld := s.toWorld.addStream (.reader [])
      descriptors := (1, s.freeNumber) :: s.descriptors.filter (·.1 ≠ 1) }
  let written (t : State) : State × List UInt8 :=
    ({ s with
        files := t.files
        streams := t.streams.filter (·.1 < s.freeNumber)
        status := t.status },
      t.toWorld.written s.freeNumber)
  match apart act inside with
  | .ok _ t =>
    let (t, bytes) := written t
    .ok bytes t
  | .error e t => .error e (written t).1

end Act
end SchemaDrift.Shell
