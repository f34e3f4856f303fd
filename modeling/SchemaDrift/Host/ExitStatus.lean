import SchemaDrift.Text.Basic

namespace SchemaDrift

/-- How a program ended: with a code of its own, or by a signal. -/
inductive ExitStatus where
  | code (n : Nat)
  | signal (n : Nat)
  deriving DecidableEq, Repr

namespace ExitStatus

/-- The names of the signals, in the order of their numbers from one on. -/
def signalNames : List Text :=
  ["SIGHUP", "SIGINT", "SIGQUIT", "SIGILL", "SIGTRAP", "SIGABRT", "SIGBUS", "SIGFPE", "SIGKILL", "SIGUSR1",
    "SIGSEGV", "SIGUSR2", "SIGPIPE", "SIGALRM", "SIGTERM", "SIGSTKFLT", "SIGCHLD", "SIGCONT", "SIGSTOP",
    "SIGTSTP", "SIGTTIN", "SIGTTOU", "SIGURG", "SIGXCPU", "SIGXFSZ", "SIGVTALRM", "SIGPROF", "SIGWINCH",
    "SIGIO", "SIGPWR", "SIGSYS"]

def signalName? (n : Nat) : Option Text := if n = 0 then none else signalNames[n - 1]?

def message : ExitStatus → Text
  | .code n => "exit status: " ++ Text.ofNat n
  | .signal n =>
    "signal: " ++ Text.ofNat n ++
      match signalName? n with
      | some name => " (" ++ name ++ ")"
      | none => []

end ExitStatus
end SchemaDrift
