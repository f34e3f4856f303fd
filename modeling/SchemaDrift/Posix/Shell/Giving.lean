import SchemaDrift.Posix.Shell.Arithmetic
import SchemaDrift.Posix.Shell.State

namespace SchemaDrift.Shell

/-- The value of an element of a list. -/
def State.item? (s : State) (name index : Text) : Option Text :=
  match s.bindings.lookup name with
  | some v =>
    match v.shape, wholeNumber? index with
    | .keyed, _ | _, none => v.value? index
    | _, some n =>
      if n < 0 then
        let size : Int := (wholeNumber? v.nextIndex).getD 0
        v.value? (ofInt (size + n))
      else v.value? (ofInt n)
  | none =>
    let own := s.ownList name
    (wholeNumber? index).bind fun n => if n < 0 then own.reverse[(-n - 1).toNat]? else own[n.toNat]?

/-- What names stand for in expressions. -/
def State.known (s : State) (name : Text) (index : Option Text) : Option Text :=
  match index with
  | none => s.value? name
  | some i => s.item? name i

namespace Act

/-- The number that an expression comes to, or the fault in it. -/
def sum (t : Text) : Act (Except SumFault Int) := do
  let s ← get
  match calculated s.dialect { known := s.known } t with
  | .error f => return .error f
  | .ok (n, v) => do
    for ((name, index), value) in v.given.reverse do
      match index with
      | none => assign name value
      | some i => do
        checkWritable name
        let old := Variables.get (← get).bindings name
        setVariable name { old.put i value with shape := if old.shape = .plain then .indexed else old.shape }
    return .ok n

/-- What is said about a fault in an expression. -/
def sumMessage (t : Text) (f : SumFault) : Act Text := worded (f.plainMessage t) (f.message t)

/-- The number that an expression comes to; without one, what stands on the line goes no further. -/
def calculate (t : Text) : Act Int := do
  match ← sum t with
  | .ok n => return n
  | .error f => abandon (← sumMessage t f)

/-- The index of an element as it is kept. -/
def indexOf (name t : Text) : Act Text := do
  let v := Variables.get (← get).bindings name
  if v.shape = .keyed then return t
  let n ← calculate t
  if n < 0 then return ofInt ((wholeNumber? v.nextIndex).getD 0 + n) else return ofInt n

/-- What a variable comes to hold when a value is given to it. -/
def valueFor (v : Variable) (old : Option Text) (adds : Bool) (value : Text) : Act Text := do
  if v.calculates then
    let n ← calculate value
    if adds then return ofInt (n + (← calculate (old.getD ['0']))) else return ofInt n
  else return (if adds then old.getD [] else []) ++ value

/-- Gives a value to a name, or to an element of a list. -/
def give (name : Text) (index : Option Text) (adds : Bool) (value : Text) : Act Unit := do
  checkWritable name
  let i ← match index with
    | none => pure ['0']
    | some t => indexOf name t
  let s ← get
  let v := Variables.get s.bindings name
  let value ← valueFor v (v.value? i) adds value
  let v := v.put i value
  let v := if index.isSome ∧ v.shape = .plain then { v with shape := .indexed } else v
  setVariable name (if s.letters.contains 'a' then { v with exported := true } else v)

/-- Gives a list of values to a name. -/
def giveList (name : Text) (adds : Bool) (items : List (Option Text × Text)) : Act Unit := do
  checkWritable name
  let v := Variables.get (← get).bindings name
  let shape : Shape := if v.shape = .keyed then .keyed else .indexed
  setVariable name { v with shape, items := if adds then v.items else [] }
  if shape = .keyed ∧ items.all (·.1.isNone) then
    let rec pairs : List Text → List (Text × Text)
      | k :: value :: rest => (k, value) :: pairs rest
      | [k] => [(k, [])]
      | [] => []
    for (k, value) in pairs (items.map Prod.snd) do
      give name (some k) false value
  else
    let mut next : Int := (wholeNumber? (if adds then v.nextIndex else ['0'])).getD 0
    for (index, value) in items do
      match index with
      | some t => do
        let i ← indexOf name t
        give name (some i) false value
        next := (wholeNumber? i).getD 0 + 1
      | none => do
        give name (some (ofInt next)) false value
        next := next + 1

end Act
end SchemaDrift.Shell
