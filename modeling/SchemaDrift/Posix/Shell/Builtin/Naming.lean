import SchemaDrift.Posix.Shell.Builtin.Flow
import SchemaDrift.Posix.Shell.Giving

namespace SchemaDrift.Shell.Builtin

/-- The options in front of arguments, letter by letter with the sign they stand behind, and the rest. -/
def leadingOptions (letters : Text) : List Text → Except Text (List (Char × Char) × List Text)
  | ['-', '-'] :: rest => .ok ([], rest)
  | (sign :: c :: r) :: rest =>
    if sign = '-' ∨ sign = '+' then
      match (c :: r).find? fun x => !letters.contains x with
      | some x => if sign = '+' ∧ !letters.contains '+' then .ok ([], (sign :: c :: r) :: rest) else .error [sign, x]
      | none => do
        let (os, rest) ← leadingOptions letters rest
        return ((c :: r).map (sign, ·) ++ os, rest)
    else .ok ([], (sign :: c :: r) :: rest)
  | rest => .ok ([], rest)

/-- Reports an option that there is none of. -/
def refuseOption (name option usage : Text) : Act Unit := do
  if ← Act.isPlain then Act.giveUp ("Illegal option " ++ option)
  else do
    report name (option ++ ": invalid option") 2
    Act.say (name ++ ": usage: " ++ usage ++ ['\n'])

/-- The name in front of an assignment, and the value if there is one; `adds` tells that it goes behind
the old one. -/
def settingOf (a : Text) : Text × Bool × Option Text :=
  match Text.cutAt? '=' a with
  | none => (a, false, none)
  | some (n, v) => if n.getLast? = some '+' then (n.dropLast, true, some v) else (n, false, some v)

/-- Reports a name that is none. -/
def refuseName (name argument : Text) : Act Unit := do
  if ← Act.isPlain then Act.giveUp ((settingOf argument).1 ++ ": bad variable name")
  else report name ("\x60" ++ argument ++ "': not a valid identifier") 1

/-- A value between double quotes, as a script can read it. -/
def doubleQuoted (t : Text) : Text :=
  '"' :: t.flatMap (fun c => if ['"', '\\', '$', '\x60'].contains c then ['\\', c] else [c]) ++ ['"']

/-- The letters of what is known of a variable. -/
def traits (v : Variable) : Text :=
  (if v.shape = .indexed then ['a'] else if v.shape = .keyed then ['A'] else []) ++
    (if v.calculates then ['i'] else []) ++ (if v.readOnly then ['r'] else []) ++ if v.exported then ['x'] else []

/-- A variable as a command that makes it. -/
def declaration (name : Text) (v : Variable) : Text :=
  let letters := traits v
  let value : Text :=
    if v.shape = .plain then (v.value? ['0']).elim [] fun t => '=' :: doubleQuoted t
    else if v.items = [] then "=()"
    else
      let shown : List Text := v.ordered.map fun (i, t) => '[' :: i ++ "]=" ++ doubleQuoted t
      "=(" ++ List.intercalate " " shown ++ (if v.shape = .keyed then " )" else ")")
  "declare -" ++ (if letters = [] then ['-'] else letters) ++ ' ' :: name ++ value ++ ['\n']

/-- Writes the variables that something holds of, in the order of their names. -/
def listVariables (command : Text) (holds : Variable → Bool) : Act Unit := do
  let s ← get
  let shown := (s.bindings.filter fun (_, v) => holds v).mergeSort fun a b => Text.inOrder a.1 b.1
  let text := shown.flatMap fun (name, v) =>
    if s.isPlain then
      command ++ name ++ (v.value? ['0']).elim [] (fun t => '=' :: plainQuoted t) ++ ['\n']
    else declaration name v
  let _ ← Act.emit 1 (Utf8.encode text)
  Act.setStatus 0

/-- Marks variables, which may be given values at the same time. -/
def mark (name : Text) (change : Variable → Variable) (arguments : List Text) : Act Unit := do
  Act.setStatus 0
  for a in arguments do
    let (n, adds, value) := settingOf a
    if !isName n then refuseName name a
    else do
      if let some v := value then
        if ← Act.isPlain then Act.assign n v
        else
          try Act.give n none adds v
          catch e => if e = .abandon then Act.setStatus 1 else throw e
      let s ← get
      if value.isNone ∨ s.status = 0 then
        Act.setVariable n (change (Variables.get s.bindings n))

def export_ (arguments : List Text) : Act Unit := do
  match leadingOptions (if ← Act.isPlain then ['p'] else "fnp".toList) arguments with
  | .error o => refuseOption "export" o "export [-fn] [name[=value] ...] or export -p"
  | .ok (os, rest) =>
    let has (c : Char) : Bool := os.any (·.2 = c)
    if rest = [] then listVariables "export " (·.exported)
    else if has 'f' then Act.setStatus 0
    else mark "export" (fun v => { v with exported := !has 'n' }) rest

def readonly (arguments : List Text) : Act Unit := do
  match leadingOptions (if ← Act.isPlain then ['p'] else "aAfp".toList) arguments with
  | .error o => refuseOption "readonly" o "readonly [-aAf] [name[=value] ...] or readonly -p"
  | .ok (_, rest) =>
    if rest = [] then listVariables "readonly " (·.readOnly)
    else mark "readonly" (fun v => { v with readOnly := true }) rest

def unset (arguments : List Text) : Act Unit := do
  let isPlain ← Act.isPlain
  match leadingOptions (if isPlain then "fv".toList else "fvn".toList) arguments with
  | .error o => refuseOption "unset" o "unset [-f] [-v] [-n] [name ...]"
  | .ok (os, rest) => do
    Act.setStatus 0
    for a in rest do
      let s ← get
      if os.any (·.2 = 'f') then set { s with commands := s.commands.filter (·.1 ≠ a) }
      else
        let (n, index) : Text × Option Text := match Text.cutAt? '[' a with
          | some (n, i) => (n, some i.dropLast)
          | none => (a, none)
        if !isName n then
          if isPlain then Act.giveUp (a ++ ": bad variable name")
          else if os.any (·.2 = 'v') then report "unset" ("\x60" ++ a ++ "': not a valid identifier") 1
          else pure ()
        else if (Variables.get s.bindings n).readOnly then
          if isPlain then Act.giveUp (n ++ ": is read only")
          else report "unset" (n ++ ": cannot unset: readonly variable") 1
        else
          match index with
          | some i => do
            let i ← Act.indexOf n i
            Act.setVariable n ((Variables.get s.bindings n).removeItem i)
          | none =>
            let isCommand := (s.bindings.lookup n).isNone && !isPlain
            set { s with
              bindings := s.bindings.filter (·.1 ≠ n)
              commands := if isCommand then s.commands.filter (·.1 ≠ n) else s.commands }

/-- Remembers what a name stood for before, for the end of the command under way. -/
def makeLocal (n : Text) : Act Unit := do
  let s ← get
  match s.frames with
  | [] => return
  | frame :: frames =>
    if frame.any (·.1 = n) then return
    else set { s with frames := ((n, s.bindings.lookup n) :: frame) :: frames }

/-- Declares variables with what is known of them; those of a command under way end with it if `isLocal`. -/
def declare (name : Text) (isLocal : Bool) (arguments : List Text) : Act Unit := do
  match leadingOptions "aAfFgiIlnrtuxp+".toList arguments with
  | .error o => refuseOption name o (name ++ " [-aAfFgiIlnrtux] [name[=value] ...] or " ++ name ++ " -p [-aAfFilnrtux] [name ...]")
  | .ok (os, rest) => do
    let has (c : Char) : Bool := os.contains ('-', c)
    let lacks (c : Char) : Bool := os.contains ('+', c)
    let s ← get
    if has 'f' ∨ has 'F' then
      Act.setStatus (if rest.all fun n => (s.commands.lookup n).isSome then 0 else 1)
    else if has 'p' then
      if rest = [] then listVariables [] fun _ => true
      else do
        Act.setStatus 0
        for n in rest do
          match s.bindings.lookup n with
          | some v => do
            let _ ← Act.emit 1 (Utf8.encode (declaration n v))
          | none => report name (n ++ ": not found") 1
    else do
      Act.setStatus 0
      for a in rest do
        let (n, adds, value) := settingOf a
        if !isName n then refuseName name a
        else do
          if isLocal ∧ !has 'g' then do
            let isNew := (← get).frames.head?.all fun f => f.all (·.1 ≠ n)
            makeLocal n
            let s ← get
            if isNew ∧ value.isNone ∧ !has 'x' then
              set { s with bindings := s.bindings.filter (·.1 ≠ n) }
          let v := Variables.get (← get).bindings n
          let turned (c : Char) (old : Bool) : Bool := (old || has c) && !lacks c
          Act.setVariable n
            { v with
              shape := if has 'A' then .keyed else if has 'a' ∧ v.shape = .plain then .indexed else v.shape
              exported := turned 'x' v.exported
              calculates := turned 'i' v.calculates
              upper := if has 'u' then some true else if has 'l' then some false else v.upper }
          if let some value := value then Act.give n none adds value
          if has 'r' then
            Act.setVariable n { Variables.get (← get).bindings n with readOnly := true }

def local_ (arguments : List Text) : Act Unit := do
  let s ← get
  if s.frames.isEmpty then
    if s.isPlain then Act.giveUp "not in a function" else report "local" "can only be used in a function" 1
  else if s.isPlain then do
    Act.setStatus 0
    for a in arguments do
      let (n, _, value) := settingOf a
      if !isName n then Act.giveUp (n ++ ": bad variable name")
      makeLocal n
      if let some v := value then Act.assign n v
  else declare "local" true arguments

/-- Lets the local variables of the command that has been under way last be what they were before. -/
def endFrame : Act Unit :=
  modify fun s =>
    match s.frames with
    | [] => s
    | frame :: frames =>
      let bindings := frame.foldl (fun (vs : Variables) (n, old) =>
        match old with
        | some v => Variables.set vs n v
        | none => vs.filter (·.1 ≠ n)) s.bindings
      { s with bindings, frames }

/-- Works expressions out, of which the last one decides. -/
def let_ (arguments : List Text) : Act Unit := do
  if arguments = [] then report "let" "expression expected" 1
  for a in arguments do
    match ← Act.sum a with
    | .ok n => Act.setStatus (if n = 0 then 1 else 0)
    | .error f => do
      report "let" (f.message a) 1
      return

end SchemaDrift.Shell.Builtin
