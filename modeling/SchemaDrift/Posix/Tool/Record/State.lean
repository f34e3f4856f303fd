import SchemaDrift.Posix.Tool.Errand
import SchemaDrift.Posix.Tool.Record.Basic

namespace SchemaDrift.Record

/-- Why an action does not go on. -/
inductive Stop where
  | next
  | nextFile
  | exit
  | leave
  | again
  | fault (message : Text)
  deriving DecidableEq, Repr

/-- What can be given a value, with its indices worked out. -/
inductive Resolved where
  | named (name : Text)
  | field (n : Nat)
  | element (list key : Text)
  deriving DecidableEq, Repr

/-- The state of a script that runs over records. -/
structure State where
  record : Text := []
  fields : List Text := []
  named : List (Text × Value) := []
  lists : List (Text × List (Text × Value)) := []
  /-- What is left of the file at hand. -/
  current : Option Text := none
  /-- The operands that are still to come. -/
  operands : List Text := []
  /-- There has been an operand that is a file. -/
  hasFile : Bool := false
  /-- What is left of other files that are read. -/
  opened : List (Text × Text) := []
  files : FileTree
  channels : List (Text × Channel) := []
  /-- What commands are to read, last part first. -/
  commands : List (Text × List Text) := []
  /-- What has been written to which output, last part first. -/
  writes : List (Nat × Text) := []
  /-- The rules whose ranges have started. -/
  ranges : List Nat := []
  status : Nat := 0

/-- What a script does. -/
abbrev Act : Type → Type := EStateM Stop State

/-- Puts a value under a key; a new key comes last. -/
def put {α : Type} (key : Text) (v : α) (xs : List (Text × α)) : List (Text × α) :=
  if xs.any (·.1 = key) then xs.map fun (k, old) => (k, if k = key then v else old) else xs ++ [(key, v)]

/-- The way that a number is written in a format for one number. -/
def numberFormat (format : Text) (x : Fraction) : Text :=
  let places := (Tool.natural? ((format.drop 2).takeWhile Char.isDigit)).getD 6
  let sign := x.sign
  match format.getLast? with
  | some 'f' => sign ++ x.fixed places
  | some 'e' => sign ++ x.scientific places
  | some 'd' => (if x.truncated < 0 then ['-'] else []) ++ Text.ofNat x.truncated.natAbs
  | _ => sign ++ x.general places

/-- The parts of a text that stand between what an expression covers. -/
def partsBetween (e : Expression) (t : Text) : List Text :=
  let hits := (Expression.hits {} e t).filter fun h => h.start < h.stop
  let (at_, parts) := hits.foldl (fun ((n, parts) : Nat × List Text) h => (h.stop, (t.take h.start).drop n :: parts)) (0, [])
  (t.drop at_ :: parts).reverse

/-- The fields of a text, divided by blanks, by one character or by what an expression covers; line breaks divide
as well where records are paragraphs. -/
def fieldsOf (separator : Text) (paragraphs : Bool) (t : Text) : List Text :=
  let isGap (c : Char) : Bool := c = ' ' || c = '\t' || c = '\n'
  if t = [] then []
  else if separator = [' '] then (t.splitOnP isGap).filter (· ≠ [])
  else if separator = [] then t.map fun c => [c]
  else
    match separator with
    | [c] => t.splitOnP fun x => x = c || paragraphs && x = '\n'
    | _ =>
      match Expression.read .lenient separator with
      | .ok e => partsBetween e t
      | .error _ => [t]

/-- The record at the front of a text, and the text behind it. -/
def cutRecord? (separator t : Text) : Option (Text × Text) :=
  match separator with
  | [] =>
    let t := t.dropWhile (· = '\n')
    let rec paragraph : Text → Text × Text
      | '\n' :: '\n' :: r => ([], r.dropWhile (· = '\n'))
      | ['\n'] => ([], [])
      | c :: r => let (a, rest) := paragraph r; (c :: a, rest)
      | [] => ([], [])
    if t = [] then none else some (paragraph t)
  | [c] => if t = [] then none else some ((Text.cutAt? c t).getD (t, []))
  | _ =>
    if t = [] then none
    else
      match (Expression.read .lenient separator).toOption.bind fun e => Expression.find? {} e t with
      | some h => some (t.take h.start, t.drop h.stop)
      | none => some (t, [])

namespace State

def valueOf (s : State) (name : Text) : Value :=
  if name = "NF" then .number (.ofInt s.fields.length) else (s.named.lookup name).getD .nothing

/-- Numbers as they are joined to texts. -/
def joinedNumber (s : State) (x : Fraction) : Text :=
  numberFormat ((s.valueOf "CONVFMT").toText fun _ => []) x

/-- Numbers as they are printed. -/
def printedNumber (s : State) (x : Fraction) : Text :=
  numberFormat ((s.valueOf "OFMT").toText fun _ => []) x

def text (s : State) (v : Value) : Text := v.toText s.joinedNumber

def setting (s : State) (name : Text) : Text := s.text (s.valueOf name)

def withRecord (s : State) (t : Text) : State :=
  { s with record := t, fields := fieldsOf (s.setting "FS") (s.setting "RS" = []) t }

/-- The state with other fields, which the record is made up of then. -/
def withFields (s : State) (fields : List Text) : State :=
  { s with fields, record := List.intercalate (s.setting "OFS") fields }

def get (s : State) : Resolved → Value
  | .named n => s.valueOf n
  | .field 0 => .given s.record
  | .field n =>
    match s.fields[n - 1]? with
    | some t => .given t
    | none => .nothing
  | .element list key => (((s.lists.lookup list).getD []).lookup key).getD .nothing

def set (s : State) (r : Resolved) (v : Value) : State :=
  match r with
  | .named n =>
    if n = "NF" then
      let size := v.toNumber.truncated.toNat
      s.withFields (s.fields.take size ++ List.replicate (size - s.fields.length) [])
    else { s with named := put n v s.named }
  | .field 0 => s.withRecord (s.text v)
  | .field n =>
    let fields := s.fields ++ List.replicate (n - s.fields.length) []
    s.withFields (fields.set (n - 1) (s.text v))
  | .element list key => { s with lists := put list (put key v ((s.lists.lookup list).getD [])) s.lists }

/-- The state with a number under a name counted up. -/
def counted (s : State) (name : Text) : State :=
  s.set (.named name) (.number ((s.valueOf name).toNumber.add (.ofInt 1)))

end State

namespace Act

def fault {α : Type} (message : Text) : Act α := throw (.fault message)

/-- Ends the script with a message that tells the place in its input as well. -/
def runFault {α : Type} (message : Text) : Act α := do
  let s ← get
  fault ("run time error: " ++ message ++ "\n\tFILENAME=\"" ++ s.setting "FILENAME" ++ "\" FNR=" ++ s.setting "FNR" ++
    " NR=" ++ s.setting "NR")

/-- Gives a value as the command line does, by a name, an equals sign and a text with escapes. -/
def giveSetting (unescaped : Text → Text) (a : Text) : Act Bool := do
  match Text.cutAt? '=' a with
  | some (name, v) =>
    if name ≠ [] ∧ !(name.head?.any Char.isDigit) ∧ name.all (fun c => c.isAlphanum || c = '_') then do
      modify fun s => s.set (.named name) (.given (unescaped v))
      return true
    else return false
  | none => return false

/-- The next record of the input, which goes on from file to file. -/
def nextRecord? (around : Surroundings) (unescaped : Text → Text) (fuel : Nat) : Act (Option Text) :=
  match fuel with
  | 0 => return none
  | fuel + 1 => do
    let s ← get
    match s.current with
    | some t =>
      match cutRecord? (s.setting "RS") t with
      | some (record, rest) => do
        modify fun s => { s with current := some rest } |>.counted "NR" |>.counted "FNR"
        return some record
      | none => do
        set { s with current := none }
        nextRecord? around unescaped fuel
    | none =>
      match s.operands with
      | [] =>
        if s.hasFile then return none
        else do
          set { s with hasFile := true, current := some (Bytes.toText around.input) }
          nextRecord? around unescaped fuel
      | o :: rest => do
        set { s with operands := rest }
        if o = [] then nextRecord? around unescaped fuel
        else if ← giveSetting unescaped o then nextRecord? around unescaped fuel
        else
          match Tool.read { around with files := s.files } o with
          | .error f =>
            fault (if f = .isADirectory then "read error (" ++ Tool.reason f ++ ")"
              else "cannot open \"" ++ o ++ "\" (" ++ Tool.reason f ++ ")")
          | .ok t => do
            modify fun s =>
              ({ s with hasFile := true, current := some t }.set (.named "FILENAME") (.given (Bytes.ofChars o))).set (.named "FNR")
                (.number (.ofInt 0))
            nextRecord? around unescaped fuel

/-- Writes a text to an output, to a file or to what a command is to read. -/
def write (t : Text) (emptied isCommand : Bool) (path : Option Text) : Act Unit := do
  let s ← get
  let toOutput (n : Nat) : Act Unit := set { s with writes := (n, t) :: s.writes }
  match path with
  | none => toOutput 1
  | some path =>
    if isCommand then set { s with commands := put path (t :: (s.commands.lookup path).getD []) s.commands }
    else if path = "/dev/stdout" ∨ path = "-" then toOutput 1
    else if path = "/dev/stderr" then toOutput 2
    else do
      let opened : Except HostFault (Channel × FileTree) :=
        match s.channels.lookup path with
        | some c => .ok (c, s.files)
        | none => s.files.openFile path emptied (!emptied)
      match opened.bind fun (c, files) => files.write c (Bytes.ofText t) with
      | .ok (c, files) => set { s with files, channels := put path c s.channels }
      | .error f => fault ("cannot open \"" ++ path ++ "\" (" ++ Tool.reason f ++ ")")

end Act
end SchemaDrift.Record
