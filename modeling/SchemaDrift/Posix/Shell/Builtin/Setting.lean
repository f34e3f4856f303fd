import SchemaDrift.Posix.Shell.Builtin.Naming

namespace SchemaDrift.Shell.Builtin

/-- The names of the options that have a letter. -/
def optionNames (d : Dialect) : List (Text × Char) :=
  let common := [("errexit", 'e'), ("noglob", 'f'), ("monitor", 'm'), ("noexec", 'n'), ("xtrace", 'x'), ("verbose", 'v'),
    ("noclobber", 'C'), ("allexport", 'a'), ("notify", 'b'), ("nounset", 'u')]
  let own := match d with
    | .dash => [("ignoreeof", 'I'), ("interactive", 'i'), ("stdin", 's'), ("vi", 'V'), ("emacs", 'E')]
    | .bash => [("braceexpand", 'B'), ("errtrace", 'E'), ("functrace", 'T'), ("hashall", 'h'), ("histexpand", 'H'),
        ("keyword", 'k'), ("onecmd", 't'), ("physical", 'P'), ("privileged", 'p')]
  (common ++ own).map fun (n, c) => (n.toList, c)

/-- The names of the options that have none. -/
def namedOnly (d : Dialect) : List Text :=
  match d with
  | .dash => ["nolog", "debug"]
  | .bash => ["emacs", "history", "ignoreeof", "interactive-comments", "nolog", "pipefail", "posix", "vi"]

/-- Sets an option by its letter, or takes it away. -/
def setLetter (s : State) (isOn : Bool) (c : Char) : State :=
  let others := s.letters.filter (· ≠ c)
  { s with letters := if isOn then c :: others else others }

def setNamed? (s : State) (isOn : Bool) (name : Text) : Option State :=
  match (optionNames s.dialect).lookup name with
  | some c => some (setLetter s isOn c)
  | none =>
    if (namedOnly s.dialect).contains name then
      let others := s.settings.filter (· ≠ name)
      some { s with settings := if isOn then name :: others else others }
    else none

/-- What an option that there is none of is called. -/
inductive OptionFault where
  | letter (sign c : Char)
  | name (sign : Char) (name : Text)
  deriving DecidableEq, Repr

/-- Sets options by the letters of one argument; `next` is the argument behind it. Gives whether that has
been taken. -/
def setLetters (s : State) (isOn : Bool) (next : Option Text) (taken : Bool) : Text → Except OptionFault (State × Bool)
  | [] => .ok (s, taken)
  | c :: r =>
    let sign := if isOn then '-' else '+'
    if c = 'o' then
      match next with
      | none => setLetters s isOn next taken r
      | some name =>
        match setNamed? s isOn name with
        | some s => setLetters s isOn next true r
        | none => .error (.name sign name)
    else if (optionNames s.dialect).any (·.2 = c) then setLetters (setLetter s isOn c) isOn next taken r
    else .error (.letter sign c)

/-- Takes options in front of arguments, and gives the arguments if there are any or a pair of minus signs
stands in front of them. -/
def takeOptions (fuel : Nat) (s : State) (arguments : List Text) : Except OptionFault (State × Option (List Text)) :=
  match fuel with
  | 0 => .ok (s, none)
  | fuel + 1 =>
    match arguments with
    | [] => .ok (s, none)
    | ['-', '-'] :: rest => .ok (s, some rest)
    | ['-'] :: rest => .ok (setLetter (setLetter s false 'x') false 'v', if rest = [] then none else some rest)
    | (sign :: c :: r) :: rest =>
      if sign = '-' ∨ sign = '+' then do
        let (s, taken) ← setLetters s (sign = '-') rest.head? false (c :: r)
        takeOptions fuel s (if taken then rest.tail else rest)
      else .ok (s, some arguments)
    | _ => .ok (s, some arguments)

/-- Writes all variables. -/
def writeVariables : Act Unit := do
  let s ← get
  let shown := s.bindings.mergeSort fun a b => Text.inOrder a.1 b.1
  let lines : Text := shown.flatMap fun (n, v) =>
    let value := (v.value? ['0']).getD []
    let plain := value.all fun c => isNameChar c || ['/', '.', ':', '-', ',', '+', '@', '%'].contains c
    n ++ '=' :: (if s.isPlain then plainQuoted value else if plain then value else singleQuoted value) ++ ['\n']
  let _ ← Act.emit 1 (Utf8.encode lines)
  Act.setStatus 0

/-- Takes options or new arguments. -/
def set (arguments : List Text) : Act Unit := do
  let s ← get
  if arguments = [] then writeVariables
  else
    match takeOptions (arguments.length + 1) s arguments with
    | .ok (s, given) =>
      MonadStateOf.set { s with arguments := given.getD s.arguments, status := 0, optionOffset := 0 }
    | .error f =>
      let option : Text := match f with
        | .letter sign c => [sign, c]
        | .name sign n => if s.isPlain then sign :: 'o' :: ' ' :: n else n
      if s.isPlain then Act.giveUp ("Illegal option " ++ option)
      else
        match f with
        | .name .. => report "set" (option ++ ": invalid option name") 2
        | .letter .. => do
          report "set" (option ++ ": invalid option") 2
          Act.say "set: usage: set [-abefhkmnptuvxBCEHPT] [-o option-name] [--] [-] [arg ...]\n"

/-- The options that only the other shell has, by their names. -/
def shoptNames : List Text :=
  ["autocd", "cdspell", "checkhash", "checkjobs", "checkwinsize", "cmdhist", "dotglob", "execfail", "expand_aliases",
    "extglob", "extquote", "failglob", "globasciiranges", "globskipdots", "globstar", "histappend", "inherit_errexit",
    "interactive_comments", "lastpipe", "nocaseglob", "nocasematch", "nullglob", "patsub_replacement", "promptvars",
    "sourcepath", "xpg_echo"].map String.toList

def shopt (arguments : List Text) : Act Unit := do
  match leadingOptions "supqo".toList arguments with
  | .error o => refuseOption "shopt" o "shopt [-pqsu] [-o] [optname ...]"
  | .ok (os, names) => do
    let has (c : Char) : Bool := os.any (·.2 = c)
    Act.setStatus 0
    for n in names do
      let s ← get
      if !shoptNames.contains n then report "shopt" (n ++ ": invalid shell option name") 1
      else if has 's' then MonadStateOf.set { s with settings := n :: s.settings }
      else if has 'u' then MonadStateOf.set { s with settings := s.settings.filter (· ≠ n) }
      else do
        let isOn := s.settings.contains n
        if !has 'q' then
          let line : Text := n ++ List.replicate (15 - n.length) ' ' ++ "\t" ++ (if isOn then "on" else "off") ++ "\n"
          let _ ← Act.emit 1 (Utf8.encode line)
        if !isOn then Act.setStatus 1

/-- Takes one option from arguments. -/
def getopts (arguments : List Text) : Act Unit := do
  let s ← get
  match arguments with
  | letters :: name :: given => do
    let words := if given = [] then s.arguments else given
    let index := (((s.value? "OPTIND").bind fun t => (Decimal.read 99999 t).toOption).getD 1)
    let quiet := letters.head? = some ':'
    let letters := if quiet then letters.tail else letters
    let ended (index : Nat) : Act Unit := do
      Act.assign "OPTIND" (Text.ofNat index)
      Act.assign name ['?']
      modify fun s => { s with optionOffset := 0, status := 1, bindings := s.bindings.filter (·.1 ≠ ("OPTARG" : Text)) }
    match words[index - 1]? with
    | none => ended index
    | some word =>
      let offset := if s.optionOffset = 0 then 1 else s.optionOffset
      if word = "--" then ended (index + 1)
      else if word.head? ≠ some '-' ∨ word.length < 2 then ended index
      else do
        let c := word.getD offset '?'
        let isLast := word.length ≤ offset + 1
        let takesValue := (Text.cutAt? c letters).any fun (_, r) => r.head? = some ':'
        let isKnown := c ≠ ':' && letters.contains c
        let goOn (index offset : Nat) : Act Unit := do
          Act.assign "OPTIND" (Text.ofNat index)
          modify fun s => { s with optionOffset := offset, status := 0 }
        let complain (plain other : Text) : Act Unit := do
          if s.isPlain then Act.say (plain ++ " -" ++ [c] ++ "\n")
          else Act.say (s.name ++ ": " ++ other ++ " -- " ++ [c] ++ "\n")
        let refused (mark : Char) (plain other : Text) : Act Unit := do
          if quiet then Act.assign "OPTARG" [c]
          else do
            complain plain other
            modify fun s => { s with bindings := s.bindings.filter (·.1 ≠ ("OPTARG" : Text)) }
          Act.assign name [if quiet then mark else '?']
        let next : Nat × Nat := if isLast then (index + 1, 0) else (index, offset + 1)
        if !isKnown then do
          refused '?' "Illegal option" "illegal option"
          goOn next.1 next.2
        else if takesValue then
          if !isLast then do
            Act.assign "OPTARG" (word.drop (offset + 1))
            Act.assign name [c]
            goOn (index + 1) 0
          else
            match words[index]? with
            | some v => do
              Act.assign "OPTARG" v
              Act.assign name [c]
              goOn (index + 2) 0
            | none => do
              refused ':' "No arg for" "option requires an argument"
              if !s.isPlain ∧ quiet then Act.assign "OPTARG" [c]
              goOn (index + 1) 0
        else do
          modify fun s => { s with bindings := s.bindings.filter (·.1 ≠ ("OPTARG" : Text)) }
          Act.assign name [c]
          goOn next.1 next.2
  | _ =>
    if s.isPlain then report "getopts" "Usage: getopts optstring var [arg...]" 2
    else do
      Act.say "getopts: usage: getopts optstring name [arg ...]\n"
      Act.setStatus 2

end SchemaDrift.Shell.Builtin
