import SchemaDrift.Text.Basic

namespace SchemaDrift

/-- An option of a command line: its key, its one letter and its long name, and whether it takes a value. -/
structure OptionRule (α : Type) where
  key : α
  letter : Option Char
  name : Text
  takesValue : Bool

/-- What a command line says, one after the other; nothing follows a `fault`. -/
inductive OptionItem (α : Type) where
  | flag (key : α)
  | option (key : α) (value : Text)
  | positional (t : Text)
  | fault
  deriving DecidableEq, Repr

namespace OptionItem

/-- Whether an argument has the form of an option. -/
def isOptionLike (t : Text) : Bool := t.head? = some '-' && t ≠ "-"

/-- How a group of letters behind one dash ends: with a flag, with an option that gets the rest as
its value or that still wants one, or with an unknown letter. -/
inductive Ending (α : Type) where
  | closed
  | given (key : α) (value : Text)
  | wanted (key : α)
  | unknown

/-- The flags of a group of letters, and how it ends. A value may be parted from its letter by an equals sign. -/
def letters {α : Type} (rules : List (OptionRule α)) : Text → List α × Ending α
  | [] => ([], .closed)
  | c :: r =>
    match rules.find? (·.letter = some c) with
    | none => ([], .unknown)
    | some rule =>
      if rule.takesValue then
        match r with
        | [] => ([], .wanted rule.key)
        | '=' :: value => ([], .given rule.key value)
        | value => ([], .given rule.key value)
      else
        let (flags, ending) := letters rules r
        (rule.key :: flags, ending)

/-- A long option's name and the value behind an equals sign. -/
def longParts (t : Text) : Text × Option Text :=
  match t.cutAt? '=' with
  | some (name, value) => (name, some value)
  | none => (t, none)

/-- Reads arguments: long options, groups of letters and positional arguments in any order; behind a
double dash all are positional. A value that stands alone must not look like an option. -/
def ofArguments {α : Type} (rules : List (OptionRule α)) : List Text → List (OptionItem α)
  | [] => []
  | a :: rest =>
    let withValue (key : α) : List (OptionItem α) :=
      match rest with
      | [] => [.fault]
      | value :: rest => if isOptionLike value then [.fault] else .option key value :: ofArguments rules rest
    if a = "--" then rest.map .positional
    else
      match Text.dropStart? "--" a with
      | some long =>
        let (name, value) := longParts long
        match rules.find? (·.name = name), value with
        | none, _ => [.fault]
        | some rule, some value =>
          if rule.takesValue then .option rule.key value :: ofArguments rules rest else [.fault]
        | some rule, none =>
          if rule.takesValue then withValue rule.key else .flag rule.key :: ofArguments rules rest
      | none =>
        if isOptionLike a then
          let (flags, ending) := letters rules (a.drop 1)
          flags.map .flag ++
            match ending with
            | .closed => ofArguments rules rest
            | .given key value => .option key value :: ofArguments rules rest
            | .wanted key => withValue key
            | .unknown => [.fault]
        else .positional a :: ofArguments rules rest

end OptionItem
end SchemaDrift
