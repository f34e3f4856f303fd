import SchemaDrift.Posix.Shell.State

namespace SchemaDrift.Shell.Builtin

/-- A number without a sign, as the commands of the plain shell read it. -/
def count? (t : Text) : Option Nat := if t ≠ [] ∧ t.all Char.isDigit then (Decimal.read (2 ^ 31 - 1) t).toOption else none

/-- A number as the other shell reads it, which may have a sign. -/
def signed? (t : Text) : Option Int :=
  match t with
  | '-' :: r => (count? r).map fun n => -n
  | '+' :: r => (count? r).map fun n => n
  | t => (count? t).map fun n => n

/-- Reports a fault of a command; in the plain shell the one who speaks is known. -/
def report (name message : Text) (status : Nat) : Act Unit := do
  let isPlain ← Act.isPlain
  let caller : Text := if isPlain then [] else name ++ ": "
  Act.complain (caller ++ message)
  Act.setStatus status

/-- Stops with the code that the first argument gives. -/
def stopWith (name : Text) (why : Stop) (arguments : List Text) : Act Unit := do
  let arguments := if arguments.head? = some ['-', '-'] then arguments.tail else arguments
  match arguments with
  | [] => throw why
  | a :: _ =>
    if ← Act.isPlain then
      match count? a with
      | some n => do
        Act.setStatus (n % 256)
        throw why
      | none => Act.giveUp ("Illegal number: " ++ a)
    else
      match signed? a with
      | some n => do
        if name = "exit" ∧ arguments.length > 1 then do
          report name "too many arguments" 1
          throw why
        else do
          Act.setStatus (n % 256).toNat
          throw why
      | none => do
        report name (a ++ ": numeric argument required") 2
        throw why

def exit (arguments : List Text) : Act Unit := stopWith "exit" .exit arguments

def return_ (arguments : List Text) : Act Unit := do
  let s ← get
  if s.frames.isEmpty ∧ s.source.isNone ∧ !s.isPlain then
    report "return" "can only \x60return' from a function or sourced script" 2
  else stopWith "return" .finish arguments

/-- Ends loops, or goes on with their next turn. -/
def leaveLoops (name : Text) (why : Nat → Stop) (arguments : List Text) : Act Unit := do
  let s ← get
  let n := (arguments.head?.map count?).getD (some 1)
  let goOn (n : Nat) : Act Unit := do
    Act.setStatus 0
    if 0 < s.loops then throw (why (min n s.loops))
  if s.isPlain then
    match n with
    | some (n + 1) => goOn (n + 1)
    | _ => Act.giveUp ("Illegal number: " ++ arguments.headD [])
  else if s.loops = 0 then
    report name "only meaningful in a \x60for', \x60while', or \x60until' loop" 0
  else
    match n with
    | some (n + 1) => goOn (n + 1)
    | some 0 => do
      report name (arguments.headD [] ++ ": loop count out of range") 1
      throw (.leave s.loops)
    | none => do
      report name (arguments.headD [] ++ ": numeric argument required") 128
      throw .exit

def shift (arguments : List Text) : Act Unit := do
  let s ← get
  let n := (arguments.head?.map count?).getD (some 1)
  match n with
  | none =>
    if s.isPlain then Act.giveUp ("Illegal number: " ++ arguments.headD [])
    else report "shift" (arguments.headD [] ++ ": numeric argument required") 1
  | some n =>
    if n ≤ s.arguments.length then set { s with arguments := s.arguments.drop n, status := 0 }
    else if s.isPlain then Act.giveUp "can't shift that many"
    else Act.setStatus 1

/-- The signal of a number or a name. -/
def signalNamed? (t : Text) : Option Nat :=
  match count? t with
  | some n => if n ≤ 64 then some n else none
  | none =>
    let name := (Text.dropStart? "SIG" t).getD t
    (ExitStatus.signalNames.findIdx? (· = "SIG" ++ name)).map (· + 1)

/-- The name of a signal as traps know it; zero is the end of the script. -/
def trapName (n : Nat) : Text :=
  if n = 0 then "EXIT" else ((ExitStatus.signalName? n).map fun t => t.drop 3).getD (Text.ofNat n)

/-- What a trap is set for. -/
def trapNamed? (isPlain : Bool) (t : Text) : Option Text :=
  if t = "EXIT" ∨ t = "0" then some "EXIT"
  else if !isPlain ∧ ["ERR", "DEBUG", "RETURN"].any (t = String.toList ·) then some t
  else if isPlain ∧ (Text.dropStart? "SIG" t).isSome then none
  else (signalNamed? t).map trapName

/-- A text between single quotes, as a script can read it. -/
def singleQuoted (t : Text) : Text :=
  let inner := t.flatMap fun c => if c = '\'' then "'\\''".toList else [c]
  '\'' :: inner ++ ['\'']

/-- The same as the plain shell writes it: single quotes are put between double ones. -/
def plainQuoted (t : Text) : Text :=
  let parts := t.splitOn '\''
  let quoted (p : Text) : Text := if p = [] then [] else '\'' :: p ++ ['\'']
  if t = [] then "''" else List.intercalate ['"', '\'', '"'] (parts.map quoted)

/-- Sets what is run on signals or at the end. -/
def trap (arguments : List Text) : Act Unit := do
  let arguments := if arguments.head? = some ['-', '-'] then arguments.tail else arguments
  let s ← get
  let order (name : Text) : Nat := if name = "EXIT" then 0 else (signalNamed? name).getD 99
  let listed := s.traps.mergeSort fun a b => order a.1 ≤ order b.1
  let isName (t : Text) : Bool := (trapNamed? s.isPlain t).isSome
  match arguments with
  | [] => do
    let lines := listed.flatMap fun (name, action) =>
      let shown : Text := if s.isPlain ∨ name = "EXIT" ∨ order name = 99 then name else "SIG" ++ name
      "trap -- " ++ (if s.isPlain then plainQuoted action else singleQuoted action) ++ ' ' :: shown ++ ['\n']
    let _ ← Act.emit 1 (Utf8.encode lines)
    Act.setStatus 0
  | a :: rest => do
    let resets := a = ['-'] ∨ rest = [] ∨ (count? a).isSome
    let names := if rest = [] ∨ a ≠ ['-'] ∧ resets then a :: rest else rest
    Act.setStatus 0
    if !s.isPlain ∧ rest = [] ∧ !isName a then do
      Act.say "trap: usage: trap [-lp] [[arg] signal_spec ...]\n"
      Act.setStatus 2
    else
      for t in names do
        match trapNamed? s.isPlain t with
        | some name =>
          modify fun s =>
            let others := s.traps.filter (·.1 ≠ name)
            { s with traps := if resets then others else (name, a) :: others }
        | none =>
          if s.isPlain then do
            Act.say ("trap: " ++ t ++ ": bad trap\n")
            Act.setStatus 1
          else report "trap" (t ++ ": invalid signal specification") 1

/-- The signals that end no program which has not asked for them. -/
def isHarmless (signal : Nat) : Bool := [0, 17, 18, 23, 28].contains signal

/-- Sends a signal to the script itself. -/
def receive (n : Nat) : Act Unit := do
  let s ← get
  match s.traps.lookup (trapName n) with
  | some [] => Act.setStatus 0
  | some _ =>
    if n = 9 ∨ n = 19 then throw (.signal n) else set { s with pending := n :: s.pending, status := 0 }
  | none => if isHarmless n then Act.setStatus 0 else throw (.signal n)

/-- Writes the names of signals. -/
def listSignals (arguments : List Text) : Act Unit := do
  let isPlain ← Act.isPlain
  let line (t : Text) : Act Unit := do
    let _ ← Act.emit 1 (Utf8.encode (t ++ ['\n']))
    Act.setStatus 0
  match arguments with
  | [] => line (List.intercalate (if isPlain then ['\n'] else [' ']) ((List.range 31).map fun n => trapName (n + 1)))
  | a :: _ =>
    match count? a with
    | some n => line (trapName (if 128 < n then n - 128 else n))
    | none =>
      match signalNamed? a with
      | some n => if isPlain then Act.giveUp ("Illegal number: " ++ a) else line (Text.ofNat n)
      | none =>
        if isPlain then Act.giveUp ("Illegal number: " ++ a)
        else report "kill" (a ++ ": invalid signal specification") 1

/-- Sends signals. -/
def kill (arguments : List Text) : Act Unit := do
  let isPlain ← Act.isPlain
  let usage : Act Unit := do
    if isPlain then
      report "kill" "Usage: kill [-s sigspec | -signum | -sigspec] [pid | job]... or\nkill -l [exitstatus]" 2
    else do
      Act.say "kill: usage: kill [-s sigspec | -n signum | -sigspec] pid | jobspec ... or kill -l [sigspec]\n"
      Act.setStatus 2
  let wrong (name : Text) : Act Unit :=
    if isPlain then report "kill" ("Illegal option -" ++ name.take 1) 2
    else report "kill" (name ++ ": invalid signal specification") 1
  let send (n : Nat) (receivers : List Text) : Act Unit := do
    if receivers = [] then usage
    else do
      Act.setStatus 0
      for r in receivers do
        if r = Text.ofNat ownNumber ∨ r = ['0'] then receive n
        else
          match signed? r with
          | some _ =>
            report "kill" (if isPlain then "No such process\n" else "(" ++ r ++ ") - No such process") 1
          | none =>
            if isPlain then report "kill" ("Illegal number: " ++ r) 2
            else report "kill" (r ++ ": arguments must be process or job IDs") 1
  match arguments with
  | [] => usage
  | ['-', 'l'] :: rest => listSignals rest
  | ['-', 's'] :: name :: rest | ['-', 'n'] :: name :: rest =>
    match signalNamed? name with
    | some n => send n rest
    | none =>
      if isPlain then report "kill" ("invalid signal number or name: " ++ name) 2
      else report "kill" (name ++ ": invalid signal specification") 1
  | ['-', '-'] :: rest => send 15 rest
  | ('-' :: name) :: rest =>
    match signalNamed? name with
    | some n => send n rest
    | none => wrong name
  | rest => send 15 rest

/-- Waits for commands that have been run on their own, which have ended long since. -/
def wait (arguments : List Text) : Act Unit := do
  let s ← get
  match arguments with
  | [] => Act.setStatus 0
  | as =>
    for a in as do
      match (count? a).bind fun n => s.ended.lookup n with
      | some status => Act.setStatus status
      | none =>
        if s.isPlain then Act.setStatus 127
        else if (count? a).isSome then report "wait" ("pid " ++ a ++ " is not a child of this shell") 127
        else report "wait" ("\x60" ++ a ++ "': not a pid or valid job spec") 1

end SchemaDrift.Shell.Builtin
