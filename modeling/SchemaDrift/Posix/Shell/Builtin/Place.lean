import SchemaDrift.Posix.Shell.Builtin.Naming
import SchemaDrift.Posix.Shell.Program
import SchemaDrift.Posix.Tool.Condition
import SchemaDrift.Posix.Tool.Entries
import SchemaDrift.Posix.Tool.Format

namespace SchemaDrift.Shell.Builtin

/-- Writes what a command of the shell itself writes; what cannot be written is a failure. -/
def perform (name : Text) (e : Effect) : Act Unit := do
  Act.setStatus e.status
  for (output, bytes) in e.writes do
    match ← Act.emit output bytes with
    | none => pure ()
    | some f =>
      if output = 1 then do
        if ← Act.isPlain then Act.complain (name ++ ": I/O error")
        else Act.complain (name ++ ": write error: " ++ f.message)
        Act.setStatus 1

def line (name t : Text) : Act Unit := perform name (.line t)

/-- Goes to another directory. -/
def cd (arguments : List Text) : Act Unit := do
  let s ← get
  match leadingOptions "LPe@".toList arguments with
  | .error o => if s.isPlain then report "cd" ("Illegal option " ++ o) 2 else refuseOption "cd" o "cd [-L|[-P [-e]] [-@]] [dir]"
  | .ok (os, rest) =>
    if rest.length > 1 ∧ !s.isPlain then report "cd" "too many arguments" 1
    else
      let old := (s.value? "OLDPWD").getD []
      let isBack := rest.head? = some ['-']
      match rest.head?, s.value? "HOME" with
      | none, none =>
        if s.isPlain then Act.setStatus 0 else report "cd" "HOME not set" 1
      | _, home =>
        let path : Text := if isBack then old else rest.headD (home.getD [])
        let fault (f : HostFault) : Act Unit := do
          if s.isPlain then report "cd" ("can't cd to " ++ path) 2
          else report "cd" (path ++ ": " ++ Tool.reason f) 1
        if isBack ∧ old = [] ∧ !s.isPlain then report "cd" "OLDPWD not set" 1
        else
          match s.files.locate (if path = [] then ['.'] else path) with
          | .error f => fault f
          | .ok l =>
            if !s.files.isDirectory l then fault .notADirectory
            else do
              let physical := os.any (·.2 = 'P')
              let shown : Text :=
                if physical then Tool.absolute l
                else
                  let names := (if path.head? = some '/' then [] else ((s.value? "PWD").getD []).splitOn '/') ++ path.splitOn '/'
                  let kept := names.foldl (fun (ns : List Text) n =>
                    if n = [] ∨ n = "." then ns else if n = ".." then ns.dropLast else ns ++ [n]) []
                  Tool.absolute kept
              let before := (s.value? "PWD").getD []
              modify fun s => { s with files := { s.files with home := l } }
              Act.assign "OLDPWD" before
              Act.assign "PWD" shown
              let exported (n : Text) : Act Unit := do
                Act.setVariable n { Variables.get (← get).bindings n with exported := true }
              exported "OLDPWD"
              exported "PWD"
              Act.setStatus 0
              if isBack then line "cd" shown

def pwd (arguments : List Text) : Act Unit := do
  let s ← get
  match leadingOptions "LP".toList arguments with
  | .error o => if s.isPlain then report "pwd" ("Illegal option " ++ o) 2 else refuseOption "pwd" o "pwd [-LP]"
  | .ok (os, _) => line "pwd" (if os.any (·.2 = 'P') then Tool.absolute s.files.home else (s.value? "PWD").getD (Tool.absolute s.files.home))

/-- Shows which permissions new files do not get, or takes note of it. -/
def umask (arguments : List Text) : Act Unit := do
  let s ← get
  let mask := s.mask
  match arguments with
  | [] => line "umask" mask
  | [['-', 'S']] =>
    let bits (c : Char) : Text :=
      let n := c.toNat - 48
      (if n / 4 % 2 = 0 then ['r'] else []) ++ (if n / 2 % 2 = 0 then ['w'] else []) ++ if n % 2 = 0 then ['x'] else []
    line "umask" ("u=" ++ bits (mask.getD 1 '0') ++ ",g=" ++ bits (mask.getD 2 '0') ++ ",o=" ++ bits (mask.getD 3 '0'))
  | a :: _ => do
    if a.head?.any Char.isDigit then
      if a.all fun c => '0' ≤ c && c ≤ '7' then
        modify fun s => { s with mask := List.replicate (4 - a.length) '0' ++ a, status := 0 }
      else if s.isPlain then report "umask" ("Illegal number: " ++ a) 2
      else report "umask" (a ++ ": octal number out of range") 1
    else Act.setStatus 0

/-- The words that the grammar of a dialect keeps for itself. -/
def isKeyword (d : Dialect) (name : Text) : Bool := (Token.keywords d).contains name || d = .bash && name = "]]"

/-- What a name means as a command. -/
inductive Meaning where
  | keyword
  | definition
  | special
  | ordinary
  | program (path : Text)

/-- The commands of the shell itself; of these the first ones are special to the plain shell. -/
def specialNames : List Text :=
  [".", ":", "break", "continue", "eval", "exec", "exit", "export", "readonly", "return", "set", "shift", "times", "trap",
    "unset"].map String.toList

def ordinaryNames (d : Dialect) : List Text :=
  let common := ["alias", "bg", "cd", "command", "echo", "false", "fg", "getopts", "hash", "jobs", "kill", "local", "printf",
    "pwd", "read", "test", "[", "true", "type", "ulimit", "umask", "unalias", "wait"]
  let own := match d with
    | .dash => ["chdir"]
    | .bash => ["builtin", "caller", "declare", "dirs", "disown", "enable", "help", "history", "let", "logout", "mapfile", "popd",
        "pushd", "readarray", "shopt", "source", "suspend", "typeset"]
  (common ++ own).map String.toList

def meaning? (s : State) (name : Text) : Option Meaning :=
  if isKeyword s.dialect name then some .keyword
  else if specialNames.contains name ∧ s.isPlain then some .special
  else if (s.commands.lookup name).isSome then some .definition
  else if specialNames.contains name then some .special
  else if (ordinaryNames s.dialect).contains name then some .ordinary
  else (Shell.find s.files s.searchPath name).toOption.map .program

/-- Tells what names mean, at length or in short. -/
def describeNames (caller : Text) (short : Bool) (names : List Text) : Act Unit := do
  Act.setStatus 0
  for n in names do
    let s ← get
    let is (what : Text) : Act Unit := do
      let _ ← Act.emit 1 (Utf8.encode ((if short then n else n ++ " is " ++ what) ++ ['\n']))
    match meaning? s n with
    | some .keyword => is "a shell keyword"
    | some .definition =>
      is (if s.isPlain then "a shell function" else "a function")
    | some .special => is (if s.isPlain then "a special shell builtin" else "a shell builtin")
    | some .ordinary => is "a shell builtin"
    | some (.program path) => do
      let wasFound := s.found.contains n
      let what : Text :=
        if !wasFound then path
        else if s.isPlain then "a tracked alias for " ++ path
        else "hashed (" ++ path ++ ")"
      let _ ← Act.emit 1 (Utf8.encode ((if short then path else n ++ " is " ++ what) ++ ['\n']))
      if s.isPlain ∧ !n.contains '/' then modify fun s => { s with found := n :: s.found }
    | none => do
      if !short then
        if s.isPlain then
          let _ ← Act.emit 1 (Utf8.encode (n ++ ": not found\n"))
        else Act.complain (caller ++ ": " ++ n ++ ": not found")
      Act.setStatus (if s.isPlain then 127 else 1)

def type (arguments : List Text) : Act Unit := do
  let s ← get
  if s.isPlain then describeNames "type" false arguments
  else
    match leadingOptions "afptP".toList arguments with
    | .error o => refuseOption "type" o "type [-afptP] name [name ...]"
    | .ok (os, names) =>
      if os.any (·.2 = 't') then do
        Act.setStatus 0
        for n in names do
          let word : Text := match meaning? s n with
            | some .keyword => "keyword"
            | some .definition => "function"
            | some .special | some .ordinary => "builtin"
            | some (.program _) => "file"
            | none => []
          if word = [] then Act.setStatus 1
          else
            let _ ← Act.emit 1 (Utf8.encode (word ++ ['\n']))
      else if os.any fun (_, c) => c = 'p' ∨ c = 'P' then do
        Act.setStatus 0
        for n in names do
          match Shell.find s.files s.searchPath n with
          | .ok path =>
            let isFile : Bool := match meaning? s n with
              | some (.program _) => true
              | _ => false
            if os.any (·.2 = 'P') ∨ isFile then
              let _ ← Act.emit 1 (Utf8.encode (path ++ ['\n']))
          | .error _ => Act.setStatus 1
      else describeNames "type" false names

/-- Whether a variable, or an element of a list, has a value. -/
def isSet (s : State) (t : Text) : Bool :=
  match Text.cutAt? '[' t with
  | some (name, index) => (s.item? name index.dropLast).isSome
  | none => ((s.bindings.lookup t).bind (·.value? ['0'])).isSome

def test (name : Text) (arguments : List Text) : Act Unit := do
  let s ← get
  let origin ← Act.origin
  let caller : Text := if s.isPlain then [] else name ++ ": "
  let speaker : Tool.Speaker := some s.dialect
  let check (ws : List Text) : Act Unit := do
    match s.dialect, ws with
    | .bash, [['-', 'v'], n] =>
      Act.setStatus (if isSet s n then 0 else 1)
    | _, ws => perform name (Tool.test speaker (origin ++ caller) s.files ws)
  if name = "[" then
    if arguments.getLast? = some [']'] then check arguments.dropLast
    else report name (← Act.worded "missing ]" "missing \x60]'") 2
  else check arguments

def printf (arguments : List Text) : Act Unit := do
  let s ← get
  let origin ← Act.origin
  match s.dialect, arguments with
  | .bash, ['-', 'v'] :: name :: rest => do
    let e := Tool.printf (some .bash) (origin ++ "printf: ") rest
    perform "printf" { e with writes := e.writes.filter (·.1 = 2) }
    let t := Utf8.decodeLossy ((e.writes.filter (·.1 = 1)).flatMap Prod.snd)
    match Text.cutAt? '[' name with
    | some (n, i) => Act.give n (some i.dropLast) false t
    | none => Act.assign name t
  | .bash, [] => do
    Act.say "printf: usage: printf [-v var] format [arguments]\n"
    Act.setStatus 2
  | .bash, as => perform "printf" (Tool.printf (some .bash) (origin ++ "printf: ") as)
  | .dash, as => perform "printf" (Tool.printf (some .dash) origin as)

def echo (arguments : List Text) : Act Unit := do
  let s ← get
  perform "echo" (Tool.echo (some s.dialect) arguments)

end SchemaDrift.Shell.Builtin
