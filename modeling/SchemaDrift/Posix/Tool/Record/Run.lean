import SchemaDrift.Posix.Tool.Record.Format
import SchemaDrift.Posix.Tool.Record.Reader

namespace SchemaDrift.Record

/-- The rest of a division. -/
def remainder (a b : Fraction) : Fraction := a.add ((b.mul (.ofInt (a.div b).truncated)).neg)

/-- A number raised to a whole power. -/
def raised (a : Fraction) (n : Int) : Fraction :=
  let p := (List.range (min n.natAbs 1100)).foldl (fun p _ => (p.mul a).kept precision) (.ofInt 1)
  if n < 0 then (if p.numerator = 0 then p else ((Fraction.ofInt 1).div p).kept precision) else p

/-- The square root of a number that is not negative. -/
def squareRoot (a : Fraction) : Fraction :=
  (Fraction.ofQuotient (Nat.sqrt (a.numerator * 4 ^ 600 / a.denominator)) (2 ^ 600)).kept precision

/-- What an operator makes of two numbers. -/
def calculated (operator : Char) (a b : Fraction) : Value :=
  let kept (x : Fraction) : Value := .number (x.kept precision)
  if operator = '+' then kept (a.add b)
  else if operator = '-' then kept (a.add b.neg)
  else if operator = '*' then kept (a.mul b)
  else if operator = '/' then
    if b.numerator ≠ 0 then kept (a.div b)
    else if a.numerator = 0 then .text "-nan"
    else if a.negative then .text "-inf"
    else .text "inf"
  else if operator = '%' then if b.numerator = 0 then .text "-nan" else kept (remainder a b)
  else if b.numerator % b.denominator = 0 then .number (raised a b.truncated)
  else if b = ⟨false, 1, 2⟩ then .number (squareRoot a)
  else .text "nan"

/-- What stands in the place of a part that has been found. -/
def replacement (found : Text) : Text → Text
  | '\\' :: '&' :: r => '&' :: replacement found r
  | '\\' :: '\\' :: r => '\\' :: replacement found r
  | '&' :: r => found ++ replacement found r
  | c :: r => c :: replacement found r
  | [] => []

/-- A text with a replacement for the first part that an expression covers, or for all of them, and how many there are. -/
def replaced (e : Expression) (everywhere : Bool) (by_ t : Text) : Text × Nat :=
  let hits := (Expression.hits {} e t).take (if everywhere then t.length + 1 else 1)
  let (at_, out) := hits.foldl (fun ((n, out) : Nat × Text) h =>
    (h.stop, out ++ (t.take h.start).drop n ++ replacement ((t.take h.stop).drop h.start) by_)) (0, [])
  (out ++ t.drop at_, hits.length)

/-- The characters of a text between two places that need not be whole; the first one is counted as one. -/
def part (t : Text) (start : Fraction) (size : Option Fraction) : Text :=
  let rounded (x : Fraction) : Int :=
    let n : Int := Fraction.roundHalfEven x.numerator x.denominator
    if x.negative then -n else n
  let first := rounded start
  let t := match size with
    | some n => t.take (rounded ((start.add n)) - 1).toNat
    | none => t
  t.drop (first - 1).toNat

/-- What joins the indices of an element. -/
def keyOf (s : State) (vs : List Value) : Text := List.intercalate (s.setting "SUBSEP") (vs.map s.text)

/-- A path that a script names. -/
def pathOf (t : Text) : Text := Utf8.decodeLossy (Bytes.ofText t)

section

variable (around : Surroundings)

/-- Reads the next record of the input. -/
def nextRecord? : Act (Option Text) := do
  let s ← get
  Act.nextRecord? around (fun (t : Text) => unescaped (t.length + 1) (Bytes.ofChars t)) (2 * s.operands.length + 4)

mutual

def evaluate (fuel : Nat) (t : Term) : Act Value :=
  match fuel with
  | 0 => Act.fault "program limit exceeded"
  | fuel + 1 => do
    match t with
    | .number x => return .number x
    | .text t => return .text t
    | .pattern e => return .ofBool (Expression.find? {} e (← get).record).isSome
    | .value p => do
      let r ← resolve fuel p
      let s ← get
      return s.get r
    | .give operator p a => do
      let r ← resolve fuel p
      let v ← evaluate fuel a
      let s ← get
      let v := match operator with
        | none => v
        | some c => calculated c (s.get r).toNumber v.toNumber
      modify fun s => s.set r v
      return v
    | .count p up before => do
      let r ← resolve fuel p
      let s ← get
      let old := (s.get r).toNumber
      let new := (old.add (.ofInt (if up then 1 else -1))).kept precision
      modify fun s => s.set r (.number new)
      return .number (if before then new else old)
    | .negative a => return .number (← evaluate fuel a).toNumber.neg
    | .positive a => return .number (← evaluate fuel a).toNumber
    | .not a => return .ofBool !(← evaluate fuel a).isTrue
    | .arithmetic operator a b => do
      let a ← evaluate fuel a
      let b ← evaluate fuel b
      return calculated operator a.toNumber b.toNumber
    | .joined a b => do
      let a ← evaluate fuel a
      let b ← evaluate fuel b
      let s ← get
      return .text (s.text a ++ s.text b)
    | .compared orders a b => do
      let a ← evaluate fuel a
      let b ← evaluate fuel b
      return .ofBool (orders.contains (Value.compare (← get).joinedNumber a b))
    | .both a b => do
      if (← evaluate fuel a).isTrue then return .ofBool (← evaluate fuel b).isTrue else return .ofBool false
    | .either a b => do
      if (← evaluate fuel a).isTrue then return .ofBool true else return .ofBool (← evaluate fuel b).isTrue
    | .covered a p => do
      let a ← evaluate fuel a
      let e ← expression fuel p
      return .ofBool (Expression.find? {} e ((← get).text a)).isSome
    | .choose c a b => do
      if (← evaluate fuel c).isTrue then evaluate fuel a else evaluate fuel b
    | .member indices list => do
      let vs ← evaluateAll fuel indices
      let s ← get
      return .ofBool ((((s.lists.lookup list).getD []).lookup (keyOf s vs)).isSome)
    | .call name arguments => call fuel name arguments
    | .readLine into file => readLine fuel into file

def evaluateAll (fuel : Nat) (ts : List Term) : Act (List Value) :=
  match fuel with
  | 0 => Act.fault "program limit exceeded"
  | fuel + 1 =>
    match ts with
    | [] => return []
    | t :: ts => do
      let v ← evaluate fuel t
      return v :: (← evaluateAll fuel ts)

/-- A spot with its indices worked out. An element is there once it has been looked at. -/
def resolve (fuel : Nat) (p : Spot) : Act Resolved :=
  match fuel with
  | 0 => Act.fault "program limit exceeded"
  | fuel + 1 => do
    match p with
    | .named n => return .named n
    | .field a => do
      let v ← evaluate fuel a
      let n := v.toNumber.truncated
      if n < 0 then Act.runFault ("negative field index $" ++ numberText (fun _ => []) (.ofInt n)) else return .field n.toNat
    | .element list indices => do
      let vs ← evaluateAll fuel indices
      let s ← get
      let key := keyOf s vs
      let items := (s.lists.lookup list).getD []
      if !items.any (·.1 = key) then set { s with lists := put list (items ++ [(key, Value.nothing)]) s.lists }
      return .element list key

/-- The expression that a term stands for. -/
def expression (fuel : Nat) (t : Term) : Act Expression :=
  match fuel with
  | 0 => Act.fault "program limit exceeded"
  | fuel + 1 => do
    match t with
    | .pattern e => return e
    | t => do
      let v ← evaluate fuel t
      match Expression.read .lenient ((← get).text v) with
      | .ok e => return e
      | .error f => Act.runFault ("regular expression compile failed (" ++ f.message ++ ")\n" ++ (← get).text v)

/-- Reads a line into a spot or the record; the value tells whether there was one. -/
def readLine (fuel : Nat) (into : Option Spot) (file : Option Term) : Act Value :=
  match fuel with
  | 0 => Act.fault "program limit exceeded"
  | fuel + 1 => do
    let give (t : Text) : Act Value := do
      match into with
      | none => modify fun s => s.withRecord t
      | some p => do
        let r ← resolve fuel p
        modify fun s => s.set r (.given t)
      return .number (.ofInt 1)
    match file with
    | none =>
      match ← nextRecord? around with
      | some t => give t
      | none => return .number (.ofInt 0)
    | some file => do
      let v ← evaluate fuel file
      let s ← get
      let path := pathOf (s.text v)
      let rest : Option Text := match s.opened.lookup path with
        | some t => some t
        | none => (Tool.read { around with files := s.files } path).toOption
      match rest with
      | none => return .number (.ofInt (-1))
      | some t =>
        match cutRecord? (s.setting "RS") t with
        | some (record, rest) => do
          set { s with opened := put path rest s.opened }
          give record
        | none => do
          set { s with opened := put path [] s.opened }
          return .number (.ofInt 0)

/-- What a function that is known by its name comes to. -/
def call (fuel : Nat) (name : Text) (arguments : List Term) : Act Value :=
  match fuel with
  | 0 => Act.fault "program limit exceeded"
  | fuel + 1 => do
    let number (n : Nat) : Value := .number (.ofInt n)
    if name = "split" then
      match arguments with
      | t :: .value (.named list) :: rest => do
        let v ← evaluate fuel t
        let s ← get
        let text := s.text v
        let parts ← match rest with
          | [] => pure (fieldsOf (s.setting "FS") (s.setting "RS" = []) text)
          | .text separator :: _ => pure (fieldsOf separator false text)
          | p :: _ => do
            let e ← expression fuel p
            pure (if text = [] then [] else partsBetween e text)
        modify fun s =>
          { s with lists := put list (parts.mapIdx fun n t => (Text.ofNat (n + 1), Value.given t)) s.lists }
        return number parts.length
      | _ => Act.fault "type error in arg(2) in call to split"
    else if name = "sub" ∨ name = "gsub" then
      match arguments with
      | p :: by_ :: rest => do
        let e ← expression fuel p
        let by_ ← evaluate fuel by_
        let r ← match rest with
          | .value target :: _ => resolve fuel target
          | _ => pure (.field 0)
        let s ← get
        let (t, n) := replaced e (name = "gsub") (s.text by_) (s.text (s.get r))
        if 0 < n then modify fun s => s.set r (.text t)
        return number n
      | _ => Act.fault ("not enough arguments in call to " ++ name)
    else if name = "match" then
      match arguments with
      | [t, p] => do
        let v ← evaluate fuel t
        let e ← expression fuel p
        let (start, size) : Int × Int := match Expression.find? {} e ((← get).text v) with
          | some h => (h.start + 1, h.stop - h.start)
          | none => (0, -1)
        modify fun s =>
          (s.set (.named "RSTART") (.number (.ofInt start))).set (.named "RLENGTH") (.number (.ofInt size))
        return .number (.ofInt start)
      | _ => Act.fault "not enough arguments in call to match"
    else
      match name, arguments with
      | _, [.value (.named list)] =>
        if name = "length" ∧ ((← get).lists.lookup list).isSome then
          return number (((← get).lists.lookup list).getD []).length
        else plainCall name [(← get).valueOf list]
      | name, arguments => do
        let vs ← evaluateAll fuel arguments
        plainCall name vs

/-- What a function comes to that needs nothing but values. -/
def plainCall (name : Text) (vs : List Value) : Act Value := do
  let s ← get
  let first := vs.headD .nothing
  let text := s.text first
  let x := first.toNumber
  if name = "length" then return .number (.ofInt (if vs.isEmpty then s.record else text).length)
  else if name = "substr" then
    return .text (part text ((vs.getD 1 .nothing).toNumber) (vs[2]?.map Value.toNumber))
  else if name = "index" then
    let needle := s.text (vs.getD 1 .nothing)
    return .number (.ofInt (match Text.fromFirst? needle text with
      | some rest => text.length - rest.length + 1
      | none => 0))
  else if name = "tolower" then return .text (text.map Char.toLower)
  else if name = "toupper" then return .text (text.map Char.toUpper)
  else if name = "int" then return .number (.ofInt x.truncated)
  else if name = "sqrt" then return if x.negative then .text "nan" else .number (squareRoot x)
  else if name = "sprintf" then
    match formatted? s.joinedNumber (text.length + 1) text vs.tail with
    | some t => return .text t
    | none => Act.runFault ("not enough arguments passed to sprintf(\"" ++ text ++ "\")")
  else if name = "close" then
    let path := pathOf text
    set { s with
      opened := s.opened.filter (·.1 ≠ path)
      channels := s.channels.filter (·.1 ≠ path) }
    return .number (.ofInt 0)
  else return .number (.ofInt 0)

end

/-- Writes a text to where an outlet leads. -/
def send (fuel : Nat) (t : Text) (outlet : Option Outlet) : Act Unit := do
  match outlet with
  | none => Act.write t false false none
  | some (.file p) => do
    let v ← evaluate around fuel p
    Act.write t true false (some (pathOf ((← get).text v)))
  | some (.fileEnd p) => do
    let v ← evaluate around fuel p
    Act.write t false false (some (pathOf ((← get).text v)))
  | some (.command p) => do
    let v ← evaluate around fuel p
    Act.write t false true (some (pathOf ((← get).text v)))

mutual

def perform (fuel : Nat) (a : Action) : Act Unit :=
  match fuel with
  | 0 => Act.fault "program limit exceeded"
  | fuel + 1 => do
    match a with
    | .skip => return
    | .term t => do
      let _ ← evaluate around fuel t
    | .print ts outlet => do
      let vs ← if ts.isEmpty then pure [.given (← get).record] else evaluateAll around fuel ts
      let s ← get
      let texts := vs.map fun v => v.toText s.printedNumber
      send around fuel (List.intercalate (s.setting "OFS") texts ++ s.setting "ORS") outlet
    | .printFormat ts outlet => do
      let vs ← evaluateAll around fuel ts
      let s ← get
      let format := s.text (vs.headD .nothing)
      match formatted? s.joinedNumber (format.length + 1) format vs.tail with
      | some t => send around fuel t outlet
      | none => Act.runFault ("not enough arguments passed to printf(\"" ++ format ++ "\")")
    | .seq a b => do
      perform fuel a
      perform fuel b
    | .choose c a b => do
      if (← evaluate around fuel c).isTrue then perform fuel a else perform fuel b
    | .loop bodyFirst c step body => repeatedly fuel bodyFirst c step body
    | .each name list body => forKeys fuel name (((((← get).lists.lookup list).getD [])).map Prod.fst) body
    | .delete list indices => do
      let vs ← evaluateAll around fuel indices
      let s ← get
      let items := (s.lists.lookup list).getD []
      let left := if indices.isEmpty then [] else items.filter (·.1 ≠ keyOf s vs)
      set { s with lists := put list left s.lists }
    | .next => throw .next
    | .nextFile => throw .nextFile
    | .leave => throw .leave
    | .again => throw .again
    | .exit code => do
      if let some t := code then
        let v ← evaluate around fuel t
        modify fun s => { s with status := (v.toNumber.truncated % 256).toNat }
      throw .exit

/-- Runs a turn of a loop, and tells whether there may be another one. -/
def turn (fuel : Nat) (body : Action) : Act Bool :=
  match fuel with
  | 0 => Act.fault "program limit exceeded"
  | fuel + 1 => do
    try
      perform fuel body
      return true
    catch e =>
      match e with
      | .again => return true
      | .leave => return false
      | e => throw e

/-- Runs a body and a step as long as a condition holds, which is not looked at first if `held` tells so. -/
def repeatedly (fuel : Nat) (held : Bool) (c : Term) (step body : Action) : Act Unit :=
  match fuel with
  | 0 => Act.fault "program limit exceeded"
  | fuel + 1 => do
    let goesOn ← if held then pure true else do
      let v ← evaluate around fuel c
      pure v.isTrue
    if goesOn then do
      if ← turn fuel body then do
        perform fuel step
        repeatedly fuel false c step body

def forKeys (fuel : Nat) (name : Text) (keys : List Text) (body : Action) : Act Unit :=
  match fuel with
  | 0 => Act.fault "program limit exceeded"
  | fuel + 1 =>
    match keys with
    | [] => return
    | k :: keys => do
      modify fun s => s.set (.named name) (.given k)
      if ← turn fuel body then forKeys fuel name keys body

end

/-- Whether a rule is for the record at hand. -/
def applies (fuel : Nat) (n : Nat) (c : Condition) : Act Bool := do
  match c with
  | .first | .last => return false
  | .always => return true
  | .holds t => return (← evaluate around fuel t).isTrue
  | .range start stop => do
    let goesOn ← if (← get).ranges.contains n then pure true else do
      let v ← evaluate around fuel start
      pure v.isTrue
    if !goesOn then return false
    let ends := (← evaluate around fuel stop).isTrue
    modify fun s => { s with ranges := if ends then s.ranges.filter (· ≠ n) else n :: s.ranges }
    return true

/-- How many steps a script may take within each other. -/
def stepLimit : Nat := 1000000

/-- Runs the rules for the record at hand. -/
def runRules (rules : List Rule) : Act Unit := do
  try
    for (n, r) in (List.range rules.length).zip rules do
      if ← applies around stepLimit n r.condition then
        perform around stepLimit (r.action.getD (.print [] none))
  catch e =>
    match e with
    | .next => pure ()
    | .nextFile => modify fun s => { s with current := none }
    | e => throw e

/-- Runs the rules for each record. -/
def runRecords (rules : List Rule) (fuel : Nat) : Act Unit :=
  match fuel with
  | 0 => return
  | fuel + 1 => do
    match ← nextRecord? around with
    | none => return
    | some t => do
      modify fun s => s.withRecord t
      runRules around rules
      runRecords rules fuel

/-- Runs a script: first what comes first, then the rules for each record if there are any, and then what
comes last. -/
def runScript (rules : List Rule) : Act Unit := do
  let having (isWanted : Condition → Bool) : List Rule := rules.filter fun r => isWanted r.condition
  let actions (isWanted : Condition → Bool) : Act Unit := do
    for r in having isWanted do
      perform around stepLimit (r.action.getD .skip)
  let exiting (act : Act Unit) : Act Unit := do
    try act
    catch e => if e ≠ .exit then throw e
  let others := having fun c => !(c matches .first)
  try
    actions fun c => c matches .first
    if !others.isEmpty then runRecords around rules (stepLimit * 10)
  catch e => if e ≠ .exit then throw e else if others.isEmpty then throw e
  exiting (actions fun c => c matches .last)

end

end SchemaDrift.Record

namespace SchemaDrift.Tool

/-- Runs a script over the records of files. -/
def awk (around : Surroundings) (called : Text) (arguments : List Text) : Plan :=
  let said (message : Text) : Plan := .ofEffect (.complaint 2 (called ++ ": " ++ message))
  let form : OptionForm := { valued := "FvfW".toList, anywhere := false }
  match Options.read form arguments with
  | .error _ => said ("not an option: " ++ (arguments.find? fun a => a.head? = some '-').getD [])
  | .ok o =>
    let scripts := (o.values 'f').map fun p => (p, read around p)
    match scripts.find? (·.2.toOption.isNone) with
    | some (path, .error f) => said ("cannot open \"" ++ path ++ "\" (" ++ reason f ++ ")")
    | _ =>
      let (script, operands) : Text × List Text :=
        if scripts.isEmpty then (Bytes.ofChars (o.operands.headD []), o.operands.tail)
        else (List.intercalate "\n" (scripts.map fun p => p.2.toOption.getD []), o.operands)
      match Record.read script with
      | .error message => said (Utf8.decodeLossy (Bytes.ofText message))
      | .ok rules =>
        let unescaped (t : Text) : Text := Record.unescaped (t.length + 1) (Bytes.ofChars t)
        let settings : List (Text × Text) :=
          [("FS", " "), ("OFS", " "), ("ORS", "\n"), ("RS", "\n"), ("SUBSEP", "\x1c"), ("CONVFMT", "%.6g"), ("OFMT", "%.6g")].map
            fun (n, t) => (n.toList, t.toList)
        let environment := around.environment.map fun (n, v) => (Bytes.ofChars n, Record.Value.given (Bytes.ofChars v))
        let words := (called :: operands).mapIdx fun n a => (Text.ofNat n, Record.Value.given (Bytes.ofChars a))
        let start : Record.State :=
          { files := around.files, operands
            named := (settings.map fun (n, t) => (n, .text t)) ++
              [("ARGC", (words.length : Int)), ("NR", 0), ("FNR", 0), ("RSTART", 0), ("RLENGTH", -1)].map fun (n, k) =>
                (n.toList, .number (.ofInt k))
            lists := [("ENVIRON".toList, environment), ("ARGV".toList, words)] }
        let act : Record.Act Unit := do
          for (c, v) in o.given do
            if c = 'F' then modify fun s => s.set (.named "FS") (.text (if v = "t" then "t" else unescaped v))
            else if c = 'v' then
              let _ ← Record.Act.giveSetting unescaped v
          Record.runScript around rules
        let finished (s : Record.State) (status : Nat) (message : Option Text) : Plan :=
          let writes := s.writes.reverse.map fun (n, t) => (n, Bytes.ofText t)
          let said : List (Nat × List UInt8) := match message with
            | some m => [(2, Utf8.encode (called ++ ": " ++ Utf8.decodeLossy (Bytes.ofText m) ++ ['\n']))]
            | none => []
          let writes := Effect.errorsFirst { writes := said ++ writes }
          { effect := { writes with status, files := some s.files, rest := if s.hasFile then some [] else none }
            errands := s.commands.map fun (c, parts) =>
              { words := ["sh".toList, "-c".toList, c], environment := around.environment
                input := some (Bytes.ofText parts.reverse.flatten), refusal := [] }
            status := fun _ => status }
        match act start with
        | .ok _ s => finished s s.status none
        | .error (.fault m) s => finished s 2 (some m)
        | .error _ s => finished s s.status none

end SchemaDrift.Tool
