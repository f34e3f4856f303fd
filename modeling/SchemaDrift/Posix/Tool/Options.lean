import SchemaDrift.Posix.Tool.Basic

namespace SchemaDrift

/-- The options that a program takes: letters alone, letters with a value, letters that may have a value
attached, and the long names of letters. An option that has a long name only has a letter from another script. -/
structure OptionForm where
  flags : Text := []
  valued : Text := []
  optional : Text := []
  long : List (Text × Char) := []
  /-- Whether options may also stand behind operands. -/
  anywhere : Bool := true
  deriving DecidableEq, Repr

/-- The options of a command with their values, and its operands. -/
structure Options where
  given : List (Char × Text) := []
  operands : List Text := []
  deriving DecidableEq, Repr

namespace Options

def has (o : Options) (c : Char) : Bool := o.given.any (·.1 = c)

/-- The value that an option was given last. -/
def value? (o : Options) (c : Char) : Option Text := o.given.reverse.lookup c

def values (o : Options) (c : Char) : List Text := o.given.filterMap fun (a, v) => if a = c then some v else none

def add (o : Options) (c : Char) (v : Text := []) : Options := { o with given := (c, v) :: o.given }

/-- The letters that a long name may mean, which may be cut short. -/
def lettersNamed (form : OptionForm) (name : Text) : List (Text × Char) :=
  match form.long.find? (·.1 = name) with
  | some l => [l]
  | none => form.long.filter (name.isPrefixOf ·.1)

/-- The options in the letters of one argument, the last argument first; the value of the last letter may
be the next argument. -/
def letters (form : OptionForm) (o : Options) (next : Option Text) : Text → Except Text (Options × Bool)
  | [] => .ok (o, false)
  | c :: r =>
    if 128 ≤ c.toNat then .error ("invalid option -- '" ++ [c] ++ "'")
    else if form.flags.contains c then letters form (o.add c) next r
    else if form.optional.contains c then .ok (o.add c r, false)
    else if form.valued.contains c then
      if r ≠ [] then .ok (o.add c r, false)
      else
        match next with
        | some v => .ok (o.add c v, true)
        | none => .error ("option requires an argument -- '" ++ [c] ++ "'")
    else .error ("invalid option -- '" ++ [c] ++ "'")

/-- The option that a long argument gives. -/
def longOption (form : OptionForm) (o : Options) (next : Option Text) (a : Text) :
    Except Text (Options × Bool) :=
  let (name, value) : Text × Option Text := match Text.cutAt? '=' a with
    | some (name, v) => (name, some v)
    | none => (a, none)
  match lettersNamed form name with
  | [] => .error ("unrecognized option '--" ++ a ++ "'")
  | [(name, c)] =>
    if form.valued.contains c then
      match value, next with
      | some v, _ => .ok (o.add c v, false)
      | none, some v => .ok (o.add c v, true)
      | none, none => .error ("option '--" ++ name ++ "' requires an argument")
    else if form.optional.contains c then .ok (o.add c (value.getD []), false)
    else if value.isSome then .error ("option '--" ++ name ++ "' doesn't allow an argument")
    else .ok (o.add c, false)
  | l :: ls =>
    if ls.all (·.2 = l.2) then .ok (o.add l.2 (value.getD []), false)
    else
      let names : Text := (l :: ls).flatMap fun (name, _) => " '--" ++ name ++ "'"
      .error ("option '--" ++ a ++ "' is ambiguous; possibilities:" ++ names)

/-- Reads the arguments behind those that make up `o`, which holds the last ones first. -/
def readOnto (form : OptionForm) (fuel : Nat) (o : Options) (arguments : List Text) : Except Text Options :=
  match fuel with
  | 0 => .ok o
  | fuel + 1 =>
    let finished (rest : List Text) : Except Text Options :=
      .ok { given := o.given.reverse, operands := o.operands.reverse ++ rest }
    match arguments with
    | [] => finished []
    | a :: rest =>
      let behind (r : Except Text (Options × Bool)) : Except Text Options := do
        let (o, takesNext) ← r
        readOnto form fuel o (if takesNext then rest.drop 1 else rest)
      match a with
      | ['-', '-'] => finished rest
      | '-' :: '-' :: name => behind (longOption form o rest.head? name)
      | '-' :: c :: r => behind (letters form o rest.head? (c :: r))
      | a =>
        if form.anywhere then readOnto form fuel { o with operands := a :: o.operands } rest
        else finished (a :: rest)

/-- The options and operands among arguments, or what is wrong with them. -/
def read (form : OptionForm) (arguments : List Text) : Except Text Options :=
  readOnto form (arguments.length + 1) {} arguments

end Options

namespace Tool

/-- Runs a program on its options and operands, unless it does not know the options. -/
def withOptions (called : Text) (form : OptionForm) (arguments : List Text) (run : Options → Effect)
    (status : Nat := 1) : Effect :=
  match Options.read form arguments with
  | .error message => misuse called message status
  | .ok o => run o

end Tool
end SchemaDrift
