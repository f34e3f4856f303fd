import SchemaDrift.Host.ExitStatus
import SchemaDrift.Host.Storage
import SchemaDrift.Log.Event
import SchemaDrift.Server.Exchange

namespace SchemaDrift

/-- A program to run, with its arguments and what is added to its environment. -/
structure Invocation where
  program : Text
  arguments : List Text
  environment : List (Text × Text) := []
  deriving DecidableEq, Repr

/-- How a program ended, what it wrote to its two outputs, and the files it left. -/
structure Completion where
  status : ExitStatus
  output : List UInt8
  errors : List UInt8
  files : FileTree
  deriving DecidableEq, Repr

/-- A log that is kept in a file: what is open, how entries are written, which level is kept, and why
entries have been lost. -/
structure Journal where
  channel : Channel
  format : LogFormat
  kept : Level
  losses : List HostFault := []
  deriving DecidableEq, Repr

/-- The surroundings of a run. What they do depends on the files and on the exchanges with the server so far. -/
structure Host where
  files : FileTree
  execute : FileTree → List Exchange → Invocation → Except HostFault Completion
  /-- What the server has against a call, if anything. -/
  serve : List Exchange → ServerCall → Option ServerFault := fun _ _ => some .refused
  /-- Hexadecimal digits that name nothing yet. -/
  fresh : List Exchange → Text := fun _ => List.replicate 32 '0'
  /-- The time that log entries bear. -/
  time : Text := Event.epoch
  /-- Whether the console is written to in colours. -/
  colours : Bool := true
  journal : Option Journal := none
  asked : List Exchange := []

namespace Host

/-- Whether a path leads to the log file, which is open for writing. -/
def isOpen (h : Host) (path : Text) : Bool :=
  match h.files.find? path, h.journal with
  | some (.file n _ true), some ⟨.file m _ _, _, _, _⟩ => n = m
  | _, _ => false

/-- Runs a program. -/
def run (h : Host) (i : Invocation) : Except HostFault Completion :=
  if i.program.contains '/' && h.isOpen i.program then .error .textFileBusy
  else h.execute h.files h.asked i

/-- Why the server fails a call, if it does. -/
def answer (h : Host) (call : ServerCall) : Option ServerFault := h.serve h.asked call

/-- The host once the server has answered a call. -/
def ask (h : Host) (call : ServerCall) : Host :=
  { h with asked := h.asked ++ [⟨call.remembered, h.answer call⟩] }

/-- The host once an event is noted in the log file, or lost. -/
def note (h : Host) (e : Event) : Host :=
  match h.journal with
  | none => h
  | some j =>
    if j.kept.admits e.level then
      match h.files.write j.channel (Utf8.encode (e.line j.format h.time)) with
      | .ok (channel, files) => { h with files, journal := some { j with channel } }
      | .error f => { h with journal := some { j with losses := j.losses ++ [f] } }
    else h

/-- Whether the log file is a device, such as an output of the run. -/
def keepsJournalOn (h : Host) (d : Device) : Bool := h.journal.any (·.channel = .device d)

/-- Why log entries have been lost, one reason for each. -/
def losses (h : Host) : List HostFault :=
  match h.journal with
  | none => []
  | some j => j.losses

end Host
end SchemaDrift
