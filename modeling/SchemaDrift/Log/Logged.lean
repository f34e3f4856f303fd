import SchemaDrift.Failure
import SchemaDrift.Host.Basic

namespace SchemaDrift

/-- A host at work: what it has become, and the events that happened so far. -/
structure Session where
  host : Host
  events : List Event := []

/-- A computation on a host that logs events and may fail; what happened before a failure stays. -/
abbrev Logged (α : Type) : Type := EStateM Failure Session α

namespace Logged

def ofExcept {α : Type} : Except Failure α → Logged α
  | .ok a => pure a
  | .error f => throw f

/-- Logs events, which the log file notes one after the other. -/
def log (events : List Event) : Logged Unit :=
  modify fun s => { host := events.foldl Host.note s.host, events := s.events ++ events }

/-- The files as they are now. -/
def files : Logged FileTree := do return (← get).host.files

/-- The text of a file as it is now. -/
def readText (path : Text) : Logged Text := do .ofExcept (((← files).readText path).mapError .io)

/-- Runs a program, which may leave other files. -/
def execute (i : Invocation) : Logged (Except HostFault Completion) := do
  match (← get).host.run i with
  | .error f => return .error f
  | .ok c =>
    modify fun s => { s with host := { s.host with files := c.files } }
    return .ok c

/-- Makes a call to the server, which may fail. -/
def ask (call : ServerCall) : Logged (Option ServerFault) := do
  let fault := (← get).host.answer call
  modify fun s => { s with host := s.host.ask call }
  return fault

/-- Makes a call to the server that must not fail. -/
def demand (call : ServerCall) : Logged Unit := do
  match ← ask call with
  | none => return ()
  | some f => throw (.server f)

/-- Opens a connection to the server. -/
def connect (l : Login) : Logged Nat := do
  let connection := (← get).host.asked.length
  demand (.connect l)
  return connection

/-- A name that nothing has yet. -/
def fresh : Logged Text := do
  let host := (← get).host
  return host.fresh host.asked

/-- Goes on with what a computation comes to, even if that is a failure. -/
def attempt {α : Type} (x : Logged α) : Logged (Except Failure α) := fun s =>
  match x s with
  | .ok a s => .ok (.ok a) s
  | .error f s => .ok (.error f) s

@[simp] theorem run_ofExcept_ok {α : Type} (a : α) (s : Session) : (ofExcept (.ok a)).run s = .ok a s := rfl

@[simp] theorem run_ofExcept_error {α : Type} (f : Failure) (s : Session) :
    (ofExcept (.error f) : Logged α).run s = .error f s := rfl

@[simp] theorem run_files (s : Session) : files.run s = .ok s.host.files s := rfl

/-- What follows a computation starts where that one has stopped, unless it has failed. -/
theorem run_bind {α β : Type} (x : Logged α) (f : α → Logged β) (s : Session) :
    (x >>= f).run s =
      match x.run s with
      | .ok a t => (f a).run t
      | .error e t => .error e t := by
  change EStateM.bind x f s = _
  unfold EStateM.bind EStateM.run
  cases x s <;> rfl

end Logged
end SchemaDrift
