import SchemaDrift.Posix.Tool.Edit.Basic
import SchemaDrift.Posix.Tool.Lines

namespace SchemaDrift.Edit

/-- A line to be edited. -/
structure InputLine where
  body : Text
  /-- A line break follows. -/
  ended : Bool
  /-- No line follows that counts as one behind it. -/
  isLast : Bool
  /-- The numbers of lines start with it. -/
  isFirst : Bool

/-- An output, last piece first, and whether its last line is still without its line break. -/
structure Sheet where
  pieces : List Text := []
  isOpen : Bool := false

def Sheet.text (s : Sheet) : Text := s.pieces.reverse.flatten

def Sheet.add (s : Sheet) (t : Text) (ended : Bool) : Sheet :=
  let s := if s.isOpen then { s with pieces := ['\n'] :: s.pieces } else s
  { pieces := (if ended then t ++ ['\n'] else t) :: s.pieces, isOpen := !ended }

/-- The state of an edition. -/
structure State where
  /-- The line at hand. -/
  space : Text := []
  ended : Bool := true
  isLast : Bool := false
  held : Text := []
  line : Nat := 0
  rest : List InputLine
  sheet : Sheet := {}
  /-- What is written behind the line at hand. -/
  pending : List Text := []
  /-- The ranges that have started, by their steps, with the line that they end at if it is known. -/
  ranges : List (Nat × Option Nat) := []
  replaced : Bool := false
  searched : Option Expression := none
  /-- The files that are written to. -/
  written : List (Text × Sheet) := []
  quit : Option Nat := none
  /-- The next turn goes on with the line at hand. -/
  keeps : Bool := false

namespace State

def write (s : State) (t : Text) (ended : Bool := true) : State := { s with sheet := s.sheet.add t ended }

/-- Writes to a file, or to the output under its name. -/
def writeTo (s : State) (path t : Text) : State :=
  if path = "/dev/stdout" then s.write t
  else
    let sheet := ((s.written.lookup path).getD {}).add t true
    { s with written := s.written.map fun (p, old) => if p = path then (p, sheet) else (p, old) }

/-- Writes what is waiting behind the line at hand. -/
def flush (s : State) : State :=
  let s := s.pending.foldl (fun (s : State) t =>
    if t = [] then s
    else if t.getLast? = some '\n' then s.write t.dropLast else s.write t false) s
  { s with pending := [] }

/-- Takes the next line. -/
def advance (s : State) : State :=
  match s.rest with
  | [] => s
  | l :: rest => { s with space := l.body, ended := l.ended, isLast := l.isLast, line := if l.isFirst then 1 else s.line + 1, rest }

def search (s : State) (q : Search) (t : Text) : State × Option Expression.Hit :=
  match q.expression.or s.searched with
  | none => (s, none)
  | some e => ({ s with searched := some e }, Expression.find? q.mode e t)

/-- Whether the line at hand has an address. -/
def isAt (s : State) : Address → State × Bool
  | .line n => (s, s.line = n)
  | .last => (s, s.isLast)
  | .every first step => (s, if step = 0 then s.line = first else s.line ≥ first && (s.line - first) % step = 0)
  | .found q =>
    let (s, h) := s.search q s.space
    (s, h.isSome)

/-- Whether a step is taken for the line at hand. -/
def selects (s : State) (step : Nat) : Selection → State × Bool
  | .all => (s, true)
  | .one a => s.isAt a
  | .range a b =>
    let start (s : State) (stop : Option Nat) : State × Bool := ({ s with ranges := (step, stop) :: s.ranges }, true)
    let stopped (s : State) : State := { s with ranges := s.ranges.filter (·.1 ≠ step) }
    let isFromZero := match a with
      | .line 0 => s.line = 1 && !(s.ranges.any (·.1 = step))
      | _ => false
    match s.ranges.lookup step with
    | some (some n) => if s.line < n then (s, true) else (stopped s, s.line = n)
    | some none =>
      match b with
      | .at_ b =>
        let (s, found) := s.isAt b
        (if found then stopped s else s, true)
      | _ => (stopped s, true)
    | none =>
      if isFromZero then
        match b with
        | .at_ b =>
          let (s, found) := s.isAt b
          if found then (s, true) else start s none
        | _ => (s, false)
      else
        let (s, found) := s.isAt a
        if !found then (s, false)
        else
          match b with
          | .at_ (.line n) => if n ≤ s.line then (s, true) else start s (some n)
          | .at_ _ => start s none
          | .after n => if n = 0 then (s, true) else start s (some (s.line + n))
          | .multiple n => if n = 0 then (s, true) else start s (some ((s.line / n + 1) * n))

/-- Whether the range of a step goes on behind the line at hand. -/
def goesOn (s : State) (step : Nat) : Bool :=
  match s.ranges.lookup step with
  | some (some n) => s.line < n
  | some none => true
  | none => false

end State

def cased (upper : Option Bool) (t : Text) : Text :=
  match upper with
  | some true => t.map Char.toUpper
  | some false => t.map Char.toLower
  | none => t

/-- What parts come to for something found. -/
def fillParts (groups : Nat → Text) : Option Bool → Option Bool → List Part → Text
  | _, _, [] => []
  | mode, once, p :: ps =>
    let add (t : Text) : Text :=
      match t with
      | [] => fillParts groups mode once ps
      | c :: r => cased (once.or mode) [c] ++ cased mode r ++ fillParts groups mode none ps
    match p with
    | .text t => add t
    | .group n => add (groups n)
    | .cased m => fillParts groups m none ps
    | .casedOnce u => fillParts groups mode (some u) ps

/-- Puts parts in the place of what is found in the line at hand. -/
def State.substitute (s : State) (u : Substitution) : State :=
  match u.search.expression.or s.searched with
  | none => s
  | some e =>
    let s := { s with searched := some e }
    let all := Expression.hits u.search.mode e s.space
    let chosen := (all.drop (u.first - 1)).take (if u.everywhere then all.length else 1)
    if chosen.isEmpty then s
    else
      let groups (h : Expression.Hit) (n : Nat) : Text :=
        if n = 0 then (s.space.take h.stop).drop h.start else (h.groups.lookup n).getD []
      let (at_, out) := chosen.foldl (fun (at_, (out : Text)) h =>
        (h.stop, out ++ (s.space.take h.start).drop at_ ++ fillParts (groups h) none none u.parts)) (0, [])
      let s := { s with space := out ++ s.space.drop at_, replaced := true }
      let s := if u.prints then s.write s.space else s
      match u.writes with
      | some path => s.writeTo path s.space
      | none => s

/-- A line in characters that all can be seen. -/
def listed (t : Text) : Text :=
  let shown (c : Char) : Text :=
    match [('\x07', 'a'), ('\x08', 'b'), ('\x0c', 'f'), ('\n', 'n'), ('\r', 'r'), ('\t', 't'), ('\x0b', 'v'), ('\\', '\\')].lookup c with
    | some l => ['\\', l]
    | none =>
      if ' ' ≤ c ∧ c ≤ '~' then [c]
      else
        let ds := Nat.toDigits 8 c.toNat
        '\\' :: List.replicate (3 - ds.length) '0' ++ ds
  let (out, last) := t.foldl (fun ((out, line) : Text × Text) c =>
    let piece := shown c
    if line.length + piece.length > 69 then (out ++ line ++ ['\\', '\n'], piece) else (out, line ++ piece)) ([], [])
  out ++ last ++ ['$']

/-- The line at hand up to its first line break, and what follows it. -/
def firstLine (t : Text) : Text × Option Text :=
  match Text.cutAt? '\n' t with
  | some (a, b) => (a, some b)
  | none => (t, none)

/-- Takes steps for the line at hand, from step `n` on, until the turn ends; the result tells whether the
line is to be written. -/
def turn (quiet : Bool) (read : Text → Text) (program : List Step) (fuel n : Nat) (s : State) : State × Bool :=
  match fuel with
  | 0 => ({ s with quit := some 4 }, false)
  | fuel + 1 =>
    match program[n]? with
    | none => (s, true)
    | some step =>
      let (s, selected) := s.selects n step.selection
      let goOn (s : State) : State × Bool := turn quiet read program fuel (n + 1) s
      if selected = step.negated then
        match step.action with
        | .open_ behind => turn quiet read program fuel behind s
        | _ => goOn s
      else
        match step.action with
        | .open_ _ | .nothing => goOn s
        | .substitute u => goOn (s.substitute u)
        | .replaceEach pairs => goOn { s with space := s.space.map fun c => (pairs.lookup c).getD c }
        | .print => goOn (s.write s.space)
        | .printFirst => goOn (s.write (firstLine s.space).1)
        | .clear => goOn { s with space := [] }
        | .delete => (s, false)
        | .deleteFirst =>
          match (firstLine s.space).2 with
          | none => (s, false)
          | some rest => ({ s with space := rest, keeps := true }, false)
        | .next =>
          if s.rest.isEmpty then ({ s with quit := some 0 }, true)
          else
            let s := if quiet then s else s.write s.space s.ended
            goOn s.flush.advance
        | .addNext =>
          if s.rest.isEmpty then ({ s with quit := some 0 }, true)
          else
            let t := s.flush.advance
            goOn { t with space := s.space ++ '\n' :: t.space }
        | .hold => goOn { s with held := s.space }
        | .addHold => goOn { s with held := s.held ++ '\n' :: s.space }
        | .fetch => goOn { s with space := s.held }
        | .addFetch => goOn { s with space := s.space ++ '\n' :: s.held }
        | .exchange => goOn { s with space := s.held, held := s.space }
        | .append t => goOn { s with pending := s.pending ++ [t] }
        | .insert t => goOn (if t = [] then s else s.write t.dropLast)
        | .change t =>
          if step.negated || !s.goesOn n then (if t = [] then s else s.write t.dropLast, false) else (s, false)
        | .number => goOn (s.write (Text.ofNat s.line))
        | .list => goOn (s.write (listed s.space))
        | .jump target => turn quiet read program fuel target s
        | .jumpIf replaced target =>
          if s.replaced = replaced then turn quiet read program fuel target { s with replaced := false }
          else goOn { s with replaced := false }
        | .readFile path => goOn { s with pending := s.pending ++ [read path] }
        | .writeFile path => goOn (s.writeTo path s.space)
        | .writeFirst path => goOn (s.writeTo path (firstLine s.space).1)
        | .quit code prints => ({ s with quit := some code }, prints)

/-- How many steps one line may take. -/
def stepLimit : Nat := 20000

/-- Edits line by line until there is no more, or the script has enough. -/
def cycle (quiet : Bool) (read : Text → Text) (program : List Step) (fuel : Nat) (s : State) : State :=
  match fuel with
  | 0 => s
  | fuel + 1 =>
    if s.quit.isSome || (s.rest.isEmpty && !s.keeps) then s
    else
      let s := if s.keeps then { s with keeps := false } else { s.advance with replaced := false }
      let (s, writes) := turn quiet read program stepLimit 0 s
      let s := if writes && !quiet then s.write s.space s.ended else s
      cycle quiet read program fuel s.flush

/-- The lines of some texts, the last of all or of each text being last. -/
def inputLines (apart : Bool) (texts : List Text) : List InputLine :=
  let lines (isFinal : Bool) (t : Text) : List InputLine :=
    let ls := Bytes.lines t
    ((List.range ls.length).zip ls).map fun (n, l) =>
      ⟨Bytes.body l, l.getLast? = some '\n', (apart || isFinal) && n + 1 = ls.length, apart && n = 0⟩
  let texts := texts.filter (· ≠ [])
  ((List.range texts.length).zip texts).flatMap fun (n, t) => lines (n + 1 = texts.length) t

/-- A script in which escaped line breaks are the characters that line breaks have become where they end no lines. -/
def withNulBreaks : Text → Text
  | '\\' :: 'n' :: r => '\x00' :: withNulBreaks r
  | '\\' :: c :: r => '\\' :: c :: withNulBreaks r
  | c :: r => c :: withNulBreaks r
  | [] => []

/-- The files that a script writes to. -/
def outputFiles (program : List Step) : List Text :=
  (program.filterMap fun s => match s.action with
    | .writeFile p | .writeFirst p => some p
    | .substitute u => u.writes
    | _ => none).eraseDups

end SchemaDrift.Edit

namespace SchemaDrift.Tool

def sedForm : OptionForm :=
  { flags := "nErsuz".toList, valued := "efl".toList, optional := ['i']
    long := [("quiet", 'n'), ("silent", 'n'), ("expression", 'e'), ("file", 'f'), ("regexp-extended", 'E'),
      ("in-place", 'i'), ("separate", 's'), ("null-data", 'z'), ("unbuffered", 'u'), ("line-length", 'l')].map
        fun (n, c) => (n.toList, c) }

/-- The place in a script that a fault shows at: the number of the expression and of the character in it. -/
def faultPlace (scripts : List Text) (whole : Text) (f : Edit.Fault) : Text :=
  match f.rest with
  | none => []
  | some rest =>
    let offset := whole.length - rest.length
    let (n, start) := ((List.range scripts.length).zip scripts).foldl (fun (n, start) (k, s) =>
      if start + s.length < offset ∧ k + 1 < scripts.length then (k + 2, start + s.length + 1) else (n, start)) (1, 0)
    "-e expression #" ++ Text.ofNat n ++ ", char " ++ Text.ofNat (offset - start) ++ ": "

/-- Writes some texts to files. -/
def writeFiles (files : FileTree) (written : List (Text × Text)) : FileTree :=
  written.foldl (fun files (path, t) =>
    match (files.openFile path true false).bind fun (c, files) => files.write c (Bytes.ofText t) with
    | .ok (_, files) => files
    | .error _ => files) files

/-- Edits the lines of files as a script tells. -/
def sed (around : Surroundings) (called : Text) (arguments : List Text) : Effect :=
  let said (status : Nat) (message : Text) : Effect := .complaint status (called ++ ": " ++ message)
  match Options.read sedForm arguments with
  | .error message => said 1 message
  | .ok o =>
    let given := o.given.filterMap fun (c, v) => if c = 'e' ∨ c = 'f' then some (c, v) else none
    let (given, paths) := if given = [] then (o.operands.take 1 |>.map (('e', ·)), o.operands.drop 1) else (given, o.operands)
    let scripts : List (Except (Text × HostFault) Text) := given.map fun (c, v) =>
      if c = 'e' then .ok (Bytes.ofChars v) else (read around v).mapError fun f => (v, f)
    match scripts.find? (·.toOption.isNone) with
    | some (.error (path, f)) => said 4 ("couldn't open file " ++ path ++ ": " ++ reason f)
    | _ =>
      let scripts : List Text := scripts.filterMap Except.toOption
      let whole : Text := (List.intercalate "\n" scripts)
      let whole := if o.has 'z' then Edit.withNulBreaks whole else whole
      let quiet := o.has 'n' || (Text.dropStart? "#n\n" whole).isSome
      if given = [] then said 1 "no script specified"
      else
        match Edit.script (o.has 'E' || o.has 'r') whole with
        | .error f => said (if f.rest.isNone then 4 else 1) (faultPlace scripts whole f ++ f.message)
        | .ok program =>
          let cs := contents around paths
          let unreadable (c : Content) (f : HostFault) : Effect :=
            if f = .isADirectory ∧ o.has 'i' then said 4 ("couldn't edit " ++ c.path ++ ": not a regular file")
            else if f = .isADirectory then said 4 ("read error on " ++ c.path ++ ": " ++ reason f)
            else said 2 ("can't read " ++ c.path ++ ": " ++ reason f)
          let errors := forEach cs unreadable fun _ _ => {}
          let texts := cs.filterMap fun c => c.bytes.toOption.map (c.path, ·)
          let readFile (path : Text) : Text := (read around path).toOption.getD []
          let written := (Edit.outputFiles program).filter (· ≠ "/dev/stdout".toList)
          let start (rest : List Edit.InputLine) (held : Text) : Edit.State :=
            { rest, held, written := written.map (·, {}) }
          let swap (t : Text) : Text :=
            if o.has 'z' then t.map fun c => if c = '\x00' then '\n' else if c = '\n' then '\x00' else c else t
          let run (s : Edit.State) : Edit.State := Edit.cycle quiet readFile program (100000 + s.rest.length) s
          if o.has 'i' then
            let (files, _, status) := texts.foldl (fun ((files, held, status) : FileTree × Text × Option Nat) (path, t) =>
              if status.isSome then (files, held, status)
              else
                let after := run (start (Edit.inputLines true [swap t]) held)
                let suffix := (o.value? 'i').getD []
                let backup : List (Text × Text) := if suffix = [] then [] else [(path ++ suffix, t)]
                let rest := Bytes.ofText (after.rest.flatMap fun l => l.body ++ if l.ended then ['\n'] else [])
                let files := writeFiles files (backup ++ after.written.map fun (p, s) => (p, s.text))
                let files := writeFiles files [(path, swap after.sheet.text ++ Bytes.toText rest)]
                (files, after.held, after.quit)) (around.files, [], none)
            errors.andThen { files := some files, status := status.getD 0 }
          else
            let after := run (start (Edit.inputLines (o.has 's') (texts.map fun p => swap p.2)) [])
            let files := if written = [] then none
              else some (writeFiles around.files (after.written.map fun (p, s) => (p, s.text)))
            let e := errors.andThen { Effect.output (Bytes.ofText (swap after.sheet.text)) with files }
            { e.errorsFirst with status := max e.status (after.quit.getD 0), rest := usedInput paths }

end SchemaDrift.Tool
