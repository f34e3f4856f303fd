import SchemaDrift.Posix.Shell.Brace
import SchemaDrift.Posix.Shell.Lexeme
import SchemaDrift.Text.Utf8

namespace SchemaDrift.Shell

/-- What a variable holds: a value, a list of values with numbers, or values with keys. -/
inductive Shape where
  | plain
  | indexed
  | keyed
  deriving DecidableEq, Repr

/-- A variable with its values; the value of a plain one has the index zero. -/
structure Variable where
  items : List (Text × Text) := []
  shape : Shape := .plain
  exported : Bool := false
  readOnly : Bool := false
  /-- What is given to it is worked out as an expression. -/
  calculates : Bool := false
  /-- What is given to it is turned into upper or lower case. -/
  upper : Option Bool := none
  deriving DecidableEq, Repr

/-- A number for a key, by which the values with keys are ordered. -/
def keyNumber (key : Text) : Nat :=
  (Utf8.encode key).foldl (fun n b => Nat.xor (n * 16777619 % 2 ^ 32) b.toNat) 2166136261 % 1024

namespace Variable

/-- Whether an item comes before another one. -/
def isBefore (shape : Shape) (a b : Text) : Bool :=
  match shape with
  | .keyed => keyNumber a ≤ keyNumber b
  | _ => decide ((wholeNumber? a).getD 0 ≤ (wholeNumber? b).getD 0)

/-- The items in their order. -/
def ordered (v : Variable) : List (Text × Text) :=
  if v.shape = .plain then v.items else v.items.mergeSort fun a b => isBefore v.shape a.1 b.1

def value? (v : Variable) (index : Text) : Option Text := v.items.lookup index

def put (v : Variable) (index value : Text) : Variable :=
  let value := match v.upper with
    | some true => value.map Char.toUpper
    | some false => value.map Char.toLower
    | none => value
  { v with items := (index, value) :: v.items.filter (·.1 ≠ index) }

def removeItem (v : Variable) (index : Text) : Variable := { v with items := v.items.filter (·.1 ≠ index) }

/-- The index that follows all others. -/
def nextIndex (v : Variable) : Text :=
  Text.ofNat ((v.items.map fun (i, _) => ((wholeNumber? i).getD 0).toNat + 1).foldl max 0)

end Variable

/-- Variables by their names, those changed last first. -/
abbrev Variables : Type := List (Text × Variable)

namespace Variables

def get (vs : Variables) (name : Text) : Variable := (vs.lookup name).getD {}

def set (vs : Variables) (name : Text) (v : Variable) : Variables := (name, v) :: vs.filter (·.1 ≠ name)

/-- The value of a variable, or the first one of a list. -/
def value? (vs : Variables) (name : Text) : Option Text := (vs.lookup name).bind (·.value? ['0'])

/-- The variables that programs get as their environment. -/
def environment (vs : Variables) : List (Text × Text) :=
  vs.reverse.filterMap fun (name, v) => if v.exported then (v.value? ['0']).map (name, ·) else none

end Variables
end SchemaDrift.Shell
