import SchemaDrift.Host.Basic
import SchemaDrift.Posix.Shell.Builtin.Table
import SchemaDrift.Posix.Shell.Expansion
import SchemaDrift.Posix.Shell.Reader
import SchemaDrift.Posix.Tool.Run
import SchemaDrift.Posix.Text.Expression

namespace SchemaDrift.Shell

namespace Act

/-- Runs something whose failure is only looked at. -/
def guarding {α : Type} (guarded : Bool) (act : Act α) : Act α := fun s =>
  match act { s with guarded } with
  | .ok a t => .ok a { t with guarded := s.guarded }
  | .error e t => .error e { t with guarded := s.guarded }

/-- Runs something that may end as a whole before it has come to its end. -/
def finishing (act : Act Unit) : Act Unit := do
  try act
  catch e => if e ≠ .finish then throw e

/-- Runs a turn of a loop, and tells whether there may be another one. -/
def turn (act : Act Unit) : Act Bool := do
  modify fun s => { s with loops := s.loops + 1 }
  let ended : Act Unit := modify fun s => { s with loops := s.loops - 1 }
  try
    act
    ended
    return true
  catch e => do
    ended
    match e with
    | .again 1 => return true
    | .leave 1 => return false
    | .again (n + 1) => throw (.again n)
    | .leave (n + 1) => throw (.leave n)
    | e => throw e

/-- Opens a file for a descriptor; gives the reason if that is not possible. -/
def openPath (source : Nat) (path : Text) (reads writes emptied appends : Bool) : Act (Option HostFault) := do
  let s ← get
  let same (target : Nat) : Act (Option HostFault) :=
    match s.descriptors.lookup target with
    | some n => do
      set { s with descriptors := (source, n) :: s.descriptors.filter (·.1 ≠ source) }
      return none
    | none => return some .noSuchFile
  let file : Act (Option HostFault) :=
    if writes then
      match s.files.openFile path emptied appends with
      | .error f => return some f
      | .ok (c, files) => do
        set { s with files }
        openAs source (.channel c reads true)
        return none
    else
      match (FileTree.checkPath path).bind fun _ => s.files.locate path with
      | .error f => return some f
      | .ok l => do
        match s.files.entry? l with
        | some (.file n _ _) => openAs source (.channel (.file n 0 false) true false)
        | some (.device d) => openAs source (.channel (.device d) true false)
        | _ => openAs source (.channel (.device .null) false false)
        return none
  match s.files.find? path with
  | some (.device .input) => same 0
  | some (.device .output) => same 1
  | some (.device .errors) => same 2
  | _ =>
    match (Text.dropStart? "/dev/fd/" path).bind Builtin.count? with
    | some n => same n
    | none => file

/-- What the plain shell says why a file is not opened. -/
def openingFault (path : Text) (creates : Bool) (f : HostFault) : Text :=
  let why : Text :=
    if f ≠ .noSuchFile ∧ f ≠ .notADirectory then Tool.reason f
    else if creates then "Directory nonexistent"
    else "No such file"
  "cannot " ++ (if creates then "create " else "open ") ++ path ++ ": " ++ why

/-- Says why a file is not opened. -/
def refusePath (path : Text) (creates : Bool) (f : HostFault) : Act Unit := do
  if ← isPlain then
    complain (openingFault path creates f)
    setStatus 2
  else do
    complain (path ++ ": " ++ Tool.reason f)
    setStatus 1

/-- Writes what a program of the system writes; what cannot be written is a failure. -/
def deliver (called : Text) (e : Effect) : Act Unit := do
  setStatus e.status
  let s ← get
  if let some files := e.files then set { s with files := { files with home := s.files.home } }
  if let some rest := e.rest then
    if let some n := s.descriptors.lookup 0 then
      modify fun s => { s with toWorld := s.toWorld.leave n rest }
  for (output, bytes) in e.writes do
    match ← emit output bytes with
    | none => pure ()
    | some f =>
      if output = 1 ∧ bytes ≠ [] then do
        say (called ++ ": write error: " ++ f.message ++ "\n")
        setStatus 1

/-- What a program of the system finds around it. -/
def surroundings (environment : List (Text × Text)) (input : Option (List UInt8)) : Act Surroundings := do
  let s ← get
  let files := { s.files with home := s.files.home }
  let fileAt (descriptor : Nat) : Option Nat :=
    match (s.descriptors.lookup descriptor).bind fun n => s.streams.lookup n with
    | some (.channel (.file n _ _) _ _) => some n
    | _ => none
  let outputFile := fileAt 1
  match input with
  | some input => return { files, environment, input, outputFile }
  | none =>
    match (s.descriptors.lookup 0).map s.toWorld.readable with
    | some (.ok (input, readsFile)) => return { files, environment, input, readsFile, inputFile := fileAt 0, outputFile }
    | _ => return { files, environment, outputFile }

/-- Writes what there is to be read. -/
def copyInput : Act Unit := do
  let around ← surroundings [] none
  deliver "cat" { writes := [(1, around.input)], rest := some [] }

/-- Tells the script how a program ended that a signal has ended. -/
def reportSignal (words : List Text) (n : Nat) : Act Unit := do
  setStatus (128 + n)
  let name : Text := match n with
    | 1 => "Hangup"
    | 3 => "Quit"
    | 4 => "Illegal instruction"
    | 5 => "Trace/breakpoint trap"
    | 6 => "Aborted"
    | 7 => "Bus error"
    | 8 => "Floating point exception"
    | 9 => "Killed"
    | 10 => "User defined signal 1"
    | 11 => "Segmentation fault"
    | 12 => "User defined signal 2"
    | 14 => "Alarm clock"
    | 15 => "Terminated"
    | n => if 34 ≤ n then "Real-time signal " ++ Text.ofNat (n - 34) else "Unknown signal " ++ Text.ofNat n
  if n ≠ 2 ∧ n ≠ 13 then
    if (← isPlain) ∨ n = 15 then say (name ++ ['\n'])
    else
      let padded := name ++ List.replicate (24 - name.length) ' '
      complain (Text.ofNat (ownNumber + 1) ++ " " ++ padded ++ List.intercalate " " words)

/-- Whether words show themselves in a trace only between quotes. -/
def traced (t : Text) : Text :=
  if t = [] then "''"
  else if t.any fun c => ['\t', '\n', ' ', '!', '"', '$', '&', '\'', '(', ')', '*', ';', '<', '>', '?', '[', '\\', ']', '^', '\x60',
      '\x7b', '|', '\x7d'].contains c then Builtin.singleQuoted t
  else t

/-- Shows a command before it is run. -/
def trace (stream : Option Nat) (assignments : List (Text × Text)) (words : List Text) : Act Unit := do
  let s ← get
  if s.letters.contains 'x' then
    let mark := (s.value? "PS4").getD "+ "
    match s.dialect with
    | .dash =>
      let shown := assignments.map (fun (n, v) => n ++ '=' :: v) ++ words
      let _ ← writeTo stream (Utf8.encode (mark ++ List.intercalate " " shown ++ ['\n']))
    | .bash =>
      let mark := List.replicate s.depth (mark.headD '+') ++ mark
      for (n, v) in assignments do
        let shown : Text := if v = [] then [] else traced v
        let _ ← writeTo stream (Utf8.encode (mark ++ n ++ '=' :: shown ++ ['\n']))
      if words ≠ [] then
        let _ ← writeTo stream (Utf8.encode (mark ++ List.intercalate " " (words.map traced) ++ ['\n']))

/-- Reports that a command is not known or cannot be run. -/
def refuseCommand (name : Text) (f : HostFault) (caller : Option Text := none) : Act Unit := do
  let s ← get
  let isThere := (programAt s.files name).toOption.isSome
  let isMissing := f = .noSuchFile ∨ f = .notADirectory
  let isDirectory : Bool := match s.files.locate name with
    | .ok l => s.files.isDirectory l
    | .error _ => false
  let message : Text := match s.dialect with
    | .dash => if isMissing then "not found" else Tool.reason f
    | .bash =>
      if !name.contains '/' then
        (if !isMissing then Tool.reason f else if caller.isSome then "not found" else "command not found")
      else if isMissing ∧ isThere then "cannot execute: required file not found"
      else if isDirectory then "Is a directory"
      else Tool.reason f
  complain (caller.getD [] ++ name ++ ": " ++ message)
  setStatus (if isMissing then 127 else 126)

end Act

/-- The commands whose arguments may be assignments. -/
def takesAssignments (d : Dialect) (name : Text) : Bool :=
  let names : List Text := match d with
    | .dash => ["export", "readonly", "local", "alias"]
    | .bash => ["export", "readonly", "local", "declare", "typeset"]
  names.contains name

/-- Whether a word is an assignment. -/
def isAssignment (w : Word) : Bool :=
  match w with
  | .literal t false :: _ =>
    match Text.cutAt? '=' t with
    | some (n, _) => isName (if n.getLast? = some '+' then n.dropLast else n)
    | none => false
  | _ => false

/-- The name that an assignment gives a value to. -/
def Assignment.name : Assignment → Text
  | .one name _ _ _ => name
  | .many name _ _ => name

/-- The descriptors that redirections change. -/
def changedBy (ds : List Redirection) : List Nat :=
  ds.flatMap fun d => match d with
    | .copy n _ _ | .toFile n _ _ | .fromFile n _ | .readWrite n _ | .fromText n _ => [n]
    | .bothToFile _ _ => [1, 2]

/-- How deep commands may be nested that interpreters have run. -/
def nestingLimit : Nat := 100

/-- The text that an expression looks for, in which what was quoted stands for itself. -/
def expressionText (p : List PatternChar) : Text :=
  p.flatMap fun c =>
    if c.quoted && !(c.char.isAlphanum || c.char = '_' || c.char = ' ' || 128 ≤ c.char.toNat) then ['\\', c.char] else [c.char]

/-- Where a shell finds its script. -/
inductive ScriptPlace where
  | text (t : Text)
  | file (path : Text)
  | input

/-- The options and the script that the arguments of a shell name, with a state that knows them. -/
def readArguments (fuel : Nat) (s : State) (isText readsInput : Bool) (ws : List Text) :
    Except Builtin.OptionFault (State × Option ScriptPlace) :=
  match fuel with
  | 0 => .ok (s, none)
  | fuel + 1 =>
    let finished (rest : List Text) : Except Builtin.OptionFault (State × Option ScriptPlace) :=
      if isText then
        match rest with
        | [] => .ok (s, none)
        | t :: rest => .ok ({ s with name := rest.headD s.name, arguments := rest.tail }, some (.text t))
      else if readsInput ∨ rest = [] then .ok ({ s with arguments := rest }, some .input)
      else .ok ({ s with name := rest.headD [], arguments := rest.tail }, some (.file (rest.headD [])))
    match ws with
    | ['-', '-'] :: rest | ['-'] :: rest => finished rest
    | (sign :: c :: r) :: rest =>
      if c = '-' ∧ !s.isPlain then readArguments fuel s isText readsInput rest
      else if sign = '-' ∨ sign = '+' then do
        let letters := (c :: r).filter fun x => !("csli".toList.contains x)
        let (s, taken) ← Builtin.setLetters s (sign = '-') rest.head? false letters
        readArguments fuel s (isText || (c :: r).contains 'c') (readsInput || (c :: r).contains 's')
          (if taken then rest.tail else rest)
      else finished ws
    | _ => finished ws

mutual

/-- What a fragment comes to. Only words that may come to several fields are set `apart`; what is not
quoted in them `divides`. -/
def fragment (fuel : Nat) (apart divides : Bool) (f : Fragment) : Act (List Glyph) :=
  match fuel with
  | 0 => return []
  | fuel + 1 => do
    let plain (quoted : Bool) (t : Text) : List Glyph :=
      (if quoted then [.stay] else []) ++ Glyph.ofText quoted (!quoted) t
    match f with
    | .literal t quoted => return (if quoted then [.stay] else []) ++ Glyph.ofText quoted (divides && !quoted) t
    | .captured c quoted => do
      let bytes ← captured fuel c
      return plain quoted ((Utf8.decodeLossy (bytes.filter (· ≠ 0))).reverse.dropWhile (· = '\n')).reverse
    | .calculated w quoted => do
      let t ← whole fuel w
      return plain quoted (ofInt (← Act.calculate t))
    | .parameter name part use quoted => parameter fuel apart name part use quoted

/-- What a parameter comes to in the way that it is used. -/
def parameter (fuel : Nat) (apart : Bool) (name : Text) (part : Subscript) (use : ParameterUse) (quoted : Bool) :
    Act (List Glyph) :=
  match fuel with
  | 0 => return []
  | fuel + 1 => do
    let index : Option Text ← match part with
      | .element w => do
        let t ← whole fuel w
        pure (some (← Act.indexOf name t))
      | _ => pure none
    let s ← get
    let d : Denoted := match part with
      | .whole => s.denoted name
      | .all joined => .several ((s.elements name).map Prod.snd) joined
      | .element _ => .one (s.item? name (index.getD []))
    let shown : Text := match part with
      | .whole => name
      | .all joined => name ++ (if joined then "[*]" else "[@]")
      | .element _ => name ++ '[' :: (index.getD []) ++ "]"
    let give (d : Denoted) : List Glyph :=
      let isJoined : Bool := match d with
        | .several _ joined => joined
        | .one _ => false
      d.glyphs apart quoted (if s.isPlain || isJoined then s.joiner else [' '])
    let word (w : Word) : Act (List Glyph) := do
      let gs ← glyphs fuel apart (!quoted) w
      return (if quoted then [.stay] else []) ++ gs
    match use with
    | .value => do
      Act.checkGiven shown d
      return give d
    | .length => do
      Act.checkGiven shown d
      let n := match d with
        | .one v => (Utf8.encode (v.getD [])).length
        | .several ts _ => ts.length
      return give (.one (some (Text.ofNat n)))
    | .valueOr evenEmpty w => if d.isGiven evenEmpty then return give d else word w
    | .wordIf evenEmpty w => if d.isGiven evenEmpty then word w else return give (.one none)
    | .assigned evenEmpty w =>
      if d.isGiven evenEmpty then return give d
      else do
        let t ← whole fuel w
        match index with
        | some i => Act.give name (some i) false t
        | none => Act.assign name t
        return give (.one (some t))
    | .demanded evenEmpty w =>
      if d.isGiven evenEmpty then return give d
      else do
        let t ← whole fuel w
        let standing : Text := if evenEmpty then (if s.isPlain then "parameter not set or null" else "parameter null or not set")
          else "parameter not set"
        Act.giveUp (shown ++ ": " ++ if t = [] ∧ w.isEmpty then standing else t) (if s.isPlain then 2 else 1)
    | .valueWithout front longest w => do
      Act.checkGiven shown d
      let p ← pattern fuel w
      return give (d.map (Pattern.withoutCovered front longest p))
    | .slice start size => do
      Act.checkGiven shown d
      let from_ ← Act.calculate (← whole fuel start)
      let size ← match size with
        | some w => do
          let n ← Act.calculate (← whole fuel w)
          pure (some n)
        | none => pure none
      match d with
      | .one v =>
        match State.sliceOf (v.getD []) from_ size with
        | some t => return give (.one (some t))
        | none => Act.abandon (ofInt (size.getD 0) ++ ": substring expression < 0")
      | .several ts joined =>
        match State.sliceOf (if part matches .whole then s.name :: ts else ts) from_ size with
        | some ts => return give (.several ts joined)
        | none => Act.abandon (ofInt (size.getD 0) ++ ": substring expression < 0")
    | .replaced everywhere anchor pw w => do
      Act.checkGiven shown d
      let p ← pattern fuel pw
      let t ← whole fuel w
      return give (d.map (State.replacedText everywhere anchor p t))
    | .cased upper all => do
      Act.checkGiven shown d
      return give (d.map (State.casedText upper all))
    | .requoted => return give (d.map State.requotedText)
    | .indirect =>
      match d with
      | .one (some target) =>
        match Text.cutAt? '[' target with
        | some (n, i) =>
          if i = "@]" ∨ i = "*]" then return give (.several ((s.elements n).map Prod.snd) (i = "*]"))
          else return give (.one (s.item? n i.dropLast))
        | none => return give (s.denoted target)
      | _ => Act.abandon (name ++ ": invalid indirect expansion")
    | .indices =>
      let joined := match part with
        | .all joined => joined
        | _ => false
      return give (.several ((s.elements name).map Prod.fst) joined)
    | .unknown written => Act.abandon (if s.isPlain then "Bad substitution" else '$' :: written ++ ": bad substitution")

/-- What a word comes to. -/
def glyphs (fuel : Nat) (apart divides : Bool) (w : Word) : Act (List Glyph) :=
  match fuel with
  | 0 => return []
  | fuel + 1 =>
    match w with
    | [] => return []
    | f :: rest => do
      let gs ← fragment fuel apart divides f
      return gs ++ (← glyphs fuel apart divides rest)

/-- The text of a word that does not fall apart. -/
def whole (fuel : Nat) (w : Word) : Act Text :=
  match fuel with
  | 0 => return []
  | fuel + 1 => do
    let gs ← glyphs fuel false false ((← get).withHome w)
    return (Glyph.whole [' '] gs).map PatternChar.char

/-- A word as a pattern, in which what is quoted stands for itself. -/
def pattern (fuel : Nat) (w : Word) : Act (List PatternChar) :=
  match fuel with
  | 0 => return []
  | fuel + 1 => do
    let gs ← glyphs fuel false false ((← get).withHome w)
    return Glyph.whole [' '] gs

/-- The texts that words come to. Words that are assignments do not fall apart if the command takes some. -/
def expand (fuel : Nat) (assigns : Bool) (ws : List Word) : Act (List Text) :=
  match fuel with
  | 0 => return []
  | fuel + 1 =>
    match ws with
    | [] => return []
    | w :: rest => do
      let ts ← if assigns ∧ isAssignment w then do
          let t ← whole fuel w
          pure [t]
        else do
          let gs ← glyphs fuel true false ((← get).withHome w)
          Act.divided gs
      return ts ++ (← expand fuel assigns rest)

/-- The texts of the words of a command. -/
def expandCommand (fuel : Nat) (ws : List Word) : Act (List Text) :=
  match fuel with
  | 0 => return []
  | fuel + 1 =>
    match ws with
    | [] => return []
    | w :: rest => do
      let first ← expand fuel false [w]
      match first with
      | [] => expandCommand fuel rest
      | name :: _ => return first ++ (← expand fuel (takesAssignments (← get).dialect name) rest)

/-- What a command writes that is run apart. -/
def captured (fuel : Nat) (c : Command) : Act (List UInt8) :=
  match fuel with
  | 0 => return []
  | fuel + 1 => do
    let s ← get
    let quiet : Act Unit := modify fun s =>
      { s with depth := s.depth + 1, letters := if s.isPlain then s.letters else s.letters.filter (· ≠ 'e') }
    let bytes ← Act.capture (do
      quiet
      match c with
      | .simple line [] [] [.fromFile 0 path] =>
        if s.isPlain then run fuel c
        else do
          modify fun s => { s with line, status := 0 }
          redirected fuel [.fromFile 0 path] Act.copyInput
      | c => Act.guarding false (toEnd fuel (run fuel c)))
    modify fun t => { t with captured := some t.status, status := s.status }
    return bytes

/-- Runs something to its end, and behind it what is to be run at the end. -/
def toEnd (fuel : Nat) (act : Act Unit) : Act Unit :=
  match fuel with
  | 0 => throw (.signal 9)
  | fuel + 1 => do
    let ending ← try
        act
        pure none
      catch e => pure (some e)
    let s ← get
    let runs : Bool := match ending with
      | some (.signal n) => !s.isPlain && [1, 2, 15].contains n
      | _ => true
    match s.traps.lookup "EXIT".toList with
    | some action =>
      if runs ∧ action ≠ [] then do
        let status := s.status
        modify fun s =>
          { s with traps := s.traps.filter (·.1 ≠ ("EXIT" : Text)), speaker := none, loops := 0, pending := [], depth := s.depth + 1 }
        runText fuel action s.line
        Act.setStatus status
    | none => pure ()
    if let some e := ending then throw e

/-- Gives values to names. Returns what has been given, as it is shown. -/
def assign (fuel : Nat) (as : List Assignment) : Act (List (Text × Text)) :=
  match fuel with
  | 0 => return []
  | fuel + 1 =>
    match as with
    | [] => return []
    | .one name index adds w :: as => do
      let t ← whole fuel ((← get).valueWithHomes w)
      let index ← match index with
        | some i => do
          let i ← whole fuel i
          pure (some i)
        | none => pure none
      if index.isNone ∧ !adds ∧ (← Act.isPlain) then Act.assign name t else Act.give name index adds t
      return (name, t) :: (← assign fuel as)
    | .many name adds values :: as => do
      let items ← listItems fuel values
      Act.giveList name adds items
      return (name, "(...)".toList) :: (← assign fuel as)

/-- The items of a list, with their indices where they are given. -/
def listItems (fuel : Nat) (values : List (Option Word × Word)) : Act (List (Option Text × Text)) :=
  match fuel with
  | 0 => return []
  | fuel + 1 =>
    match values with
    | [] => return []
    | (some i, w) :: rest => do
      let i ← whole fuel i
      let t ← whole fuel w
      return (some i, t) :: (← listItems fuel rest)
    | (none, w) :: rest => do
      let ts ← expand fuel false [w]
      return ts.map (none, ·) ++ (← listItems fuel rest)

/-- Redirects in turn, up to the first one that is not possible; tells whether all were. -/
def redirect (fuel : Nat) (ds : List Redirection) : Act Bool :=
  match fuel with
  | 0 => return false
  | fuel + 1 =>
    match ds with
    | [] => return true
    | d :: rest => do
      let opened (source : Nat) (w : Word) (reads writes emptied appends : Bool) : Act Bool := do
        let path ← whole fuel w
        let s ← get
        let isKept : Bool := emptied && s.letters.contains 'C' &&
          (match s.files.find? path with
            | some (.file ..) => true
            | _ => false)
        if isKept then do
          if s.isPlain then Act.refusePath path true .fileExists
          else do
            Act.complain (path ++ ": cannot overwrite existing file")
            Act.setStatus 1
          return false
        else
          match ← Act.openPath source path reads writes emptied appends with
          | none => return true
          | some f => do
            Act.refusePath path writes f
            return false
      let copied (source target : Nat) : Act Bool := do
        let s ← get
        match s.descriptors.lookup target with
        | some n => do
          set { s with descriptors := (source, n) :: s.descriptors.filter (·.1 ≠ source) }
          return true
        | none => do
          Act.complain (Text.ofNat target ++ ": Bad file descriptor")
          Act.setStatus (if s.isPlain then 2 else 1)
          return false
      let isDone ← match d with
        | .copy source _ w => do
          let t ← whole fuel w
          if t = "-" then do
            modify fun s => { s with descriptors := s.descriptors.filter (·.1 ≠ source) }
            pure true
          else
            match Builtin.count? t with
            | some n => copied source n
            | none =>
              if ← Act.isPlain then do
                modify fun s => { s with line := s.line + 1 }
                Act.giveUp "Syntax error: Bad fd number"
              else do
                Act.complain (t ++ ": ambiguous redirect")
                Act.setStatus 1
                pure false
        | .toFile source emptied w => opened source w false true emptied (!emptied)
        | .bothToFile emptied w => do
          let isDone ← opened 1 w false true emptied (!emptied)
          if isDone then copied 2 1 else pure false
        | .fromFile source w => opened source w true false false false
        | .readWrite source w => opened source w true true false false
        | .fromText source w => do
          let t ← whole fuel w
          Act.openAs source (.supply (Utf8.encode t))
          pure true
      if isDone then redirect fuel rest else return false

/-- Runs something with redirections, which are taken back behind it. -/
def redirected (fuel : Nat) (ds : List Redirection) (act : Act Unit) : Act Unit :=
  match fuel with
  | 0 => throw (.signal 9)
  | fuel + 1 => do
    let before ← get
    let undo : Act Unit := Act.restore before.descriptors (changedBy ds) before.freeNumber
    try
      if ← redirect fuel ds then act
      undo
    catch e => do
      undo
      throw e

/-- Runs text as if it stood in the script; its first line has the number behind `line`, if that counts. -/
def runText (fuel : Nat) (t : Text) (line : Nat) : Act Unit :=
  match fuel with
  | 0 => throw (.signal 9)
  | fuel + 1 => do
    let s ← get
    let offset := if s.isPlain ∨ line = 0 then 0 else line - 1
    let script := scriptFrom (t.length + 1) s.dialect (offset + lastLine t) t
    if script.commands.isEmpty then Act.setStatus 0
    runAll fuel script.commands
    match script.fault with
    | none => return
    | some f => do
      let line := s.line
      if s.isPlain then do
        let (n, message) := f.plainMessage (lastLine t)
        modify fun s => { s with line := n }
        Act.giveUp ("Syntax error: " ++ message)
      else do
        let speaker : Text := s.speaker.elim [] (· ++ ": ")
        for (n, message) in f.messages t (offset + lastLine t) do
          Act.say (s.source.getD s.name ++ ": " ++ speaker ++ "line " ++ Text.ofNat n ++ ": " ++ message ++ "\n")
        let status := if f matches .unclosed .list _ _ then 1 else 2
        modify fun s => { s with line, status }

/-- Runs commands one after the other; what is wrong in one of them may end that one alone. -/
def runAll (fuel : Nat) (cs : List (Nat × Command)) : Act Unit :=
  match fuel with
  | 0 => throw (.signal 9)
  | fuel + 1 =>
    match cs with
    | [] => return
    | (_, c) :: rest => do
      if (← get).letters.contains 'n' then return
      try run fuel c
      catch e =>
        if e = .abandon ∧ !(← get).isApart then pure () else if e = .abandon then throw .exit else throw e
      runAll fuel rest

/-- Runs what is to be run on the signals that have come. -/
def answerSignals (fuel : Nat) : Act Unit :=
  match fuel with
  | 0 => return
  | fuel + 1 => do
    let s ← get
    match s.pending.reverse with
    | [] => return
    | n :: rest => do
      set { s with pending := rest.reverse }
      match s.traps.lookup (Builtin.trapName n) with
      | some action => do
        runText fuel action s.line
        Act.setStatus s.status
      | none => pure ()
      answerSignals fuel

/-- Ends the script if a command has failed that must not. -/
def check (fuel : Nat) : Act Unit :=
  match fuel with
  | 0 => return
  | fuel + 1 => do
    answerSignals fuel
    let s ← get
    if s.status ≠ 0 ∧ !s.guarded then do
      match s.traps.lookup "ERR".toList with
      | some action => do
        set { s with traps := s.traps.filter (·.1 ≠ ("ERR" : Text)) }
        runText fuel action s.line
        modify fun t => { t with status := s.status, traps := s.traps }
      | none => pure ()
      if s.letters.contains 'e' then throw .exit

/-- Runs a program of the system, or a script, with descriptors as they are now. -/
def launch (fuel : Nat) (depth : Nat) (path called : Text) (arguments : List Text) (environment : List (Text × Text))
    (input : Option (List UInt8)) : Act (Option HostFault × ExitStatus) :=
  match fuel with
  | 0 => throw (.signal 9)
  | fuel + 1 => do
    let s ← get
    let l : Except HostFault Launch := match launch? interpreterDepth s.files path called arguments with
      | .error .notExecutable => launch? interpreterDepth s.files "/bin/sh" "/bin/sh" (path :: arguments)
      | r => r
    match l with
    | .error f => return (some f, .code 0)
    | .ok l =>
      if ["sh", "dash", "bash"].any (l.program = String.toList ·) then do
        let d : Dialect := if l.program = "bash" then .bash else .dash
        let inside : Act ExitStatus := startShell fuel d l.called l.arguments environment
        if nestingLimit ≤ depth then throw (.signal 9)
        if let some input := input then Act.openAs 0 (.supply input)
        return (none, ← inside)
      else do
        let around ← Act.surroundings environment input
        let plan := Tool.plan around l.program l.called l.arguments
        Act.deliver l.called (if input.isSome then { plan.effect with rest := none } else plan.effect)
        if plan.errands.isEmpty then return (none, .code (← get).status)
        else do
          let codes ← runErrands fuel depth plan.errands
          return (none, .code (plan.status codes))

/-- Runs the commands that a program has run, and gives their exit codes. -/
def runErrands (fuel : Nat) (depth : Nat) (es : List Errand) : Act (List Nat) :=
  match fuel with
  | 0 => return []
  | fuel + 1 =>
    match es with
    | [] => return []
    | e :: rest => do
      let s ← get
      let name := e.words.headD []
      let directories := ((e.environment.lookup "PATH".toList).elim FileTree.programDirectories (·.splitOn ':'))
      let code ← match find s.files directories name with
        | .error f => do
          Act.say (e.refusal ++ Tool.reason f ++ "\n")
          pure (if f = .noSuchFile ∨ f = .notADirectory then 127 else 126)
        | .ok path => do
          let before ← get
          let (fault, status) ← launch fuel (depth + 1) path name e.words.tail e.environment e.input
          Act.restore before.descriptors [0] before.freeNumber
          match fault, status with
          | some f, _ => do
            Act.say (e.refusal ++ Tool.reason f ++ "\n")
            pure (if f = .noSuchFile ∨ f = .notADirectory then 127 else 126)
          | none, .code n => pure n
          | none, .signal n => pure (128 + n)
      match e.ending code with
      | some message => do
        Act.say message
        return [code]
      | none => return code :: (← runErrands fuel depth rest)

/-- Runs a program that a script calls. -/
def callProgram (fuel : Nat) (name : Text) (arguments : List Text) : Act Unit :=
  match fuel with
  | 0 => throw (.signal 9)
  | fuel + 1 => do
    let s ← get
    match find s.files s.searchPath name with
    | .error f => Act.refuseCommand name f
    | .ok path => do
      if !name.contains '/' then set { s with found := name :: s.found }
      let (fault, status) ← launch fuel 0 path name arguments s.environment none
      match fault, status with
      | some f, _ => Act.refuseCommand name f
      | none, .code n => Act.setStatus n
      | none, .signal n => Act.reportSignal (name :: arguments) n

/-- Runs the commands in a file as if they stood in the script. -/
def source (fuel : Nat) (arguments : List Text) : Act Unit :=
  match fuel with
  | 0 => throw (.signal 9)
  | fuel + 1 => do
    let s ← get
    match arguments with
    | [] =>
      if s.isPlain then Act.setStatus 0
      else do
        Builtin.report "." "filename argument required" 2
        Act.say ".: usage: . filename [arguments]\n"
    | path :: rest => do
      let sought := (s.searchPath.map fun d => d ++ '/' :: path).find? s.files.pathExists
      let place := if path.contains '/' then path else if s.isPlain then sought.getD [] else sought.getD path
      if place = [] then Act.giveUp (path ++ ": not found")
      else
        match s.files.read place with
        | .error f =>
          if s.isPlain then
            Act.giveUp (Act.openingFault path false f)
          else do
            if f = .isADirectory then Builtin.report "." (path ++ ": is a directory") 1
            else do
              Act.complain (path ++ ": " ++ Tool.reason f)
              Act.setStatus 1
        | .ok bytes => do
          modify fun t =>
            { t with
              speaker := if s.isPlain then some place else none
              source := some place
              arguments := if s.isPlain ∨ rest = [] then t.arguments else rest }
          let undo : Act Unit := modify fun t =>
            { t with speaker := s.speaker, source := s.source, arguments := if s.isPlain ∨ rest = [] then t.arguments else s.arguments }
          try
            Act.finishing (runText fuel (Utf8.decodeLossy bytes) 0)
            undo
          catch e => do
            undo
            throw e

/-- Runs a command that the script itself has given a name. -/
def callDefined (fuel : Nat) (name : Text) (body : Command) (arguments : List Text) : Act Unit :=
  match fuel with
  | 0 => throw (.signal 9)
  | fuel + 1 => do
    let s ← get
    set { s with arguments, frames := [] :: s.frames, callers := name :: s.callers, loops := 0 }
    let undo : Act Unit := do
      Builtin.endFrame
      modify fun t => { t with arguments := s.arguments, callers := s.callers, loops := s.loops }
    try
      Act.finishing (run fuel body)
      undo
    catch e => do
      undo
      throw e

/-- Runs a command of the shell itself. -/
def callBuiltin (fuel : Nat) (name : Text) (arguments : List Text) : Act Unit :=
  match fuel with
  | 0 => throw (.signal 9)
  | fuel + 1 => do
    let s ← get
    let behindDashes := if arguments.head? = some ['-', '-'] then arguments.tail else arguments
    if name = "eval" then do
      modify fun s => { s with depth := s.depth + 1, speaker := some "eval" }
      runText fuel (List.intercalate " " behindDashes) s.line
      modify fun t => { t with depth := s.depth, speaker := s.speaker }
    else if name = "." ∨ name = "source" then source fuel behindDashes
    else if name = "exec" then
      match behindDashes with
      | [] => Act.setStatus 0
      | name :: rest => do
        let refuse (f : HostFault) : Act Unit := do
          if s.isPlain ∨ name.contains '/' then Act.refuseCommand name f
          else do
            Act.refuseCommand name f (some "exec: ")
          throw .exit
        match find s.files s.searchPath name with
        | .error f => refuse f
        | .ok path => do
          let (fault, status) ← launch fuel 0 path name rest s.environment none
          match fault, status with
          | some f, _ => refuse f
          | none, .code n => do
            modify fun s => { s with traps := [], status := n }
            throw .exit
          | none, .signal n => throw (.signal n)
    else if name = "command" then
      match Builtin.leadingOptions "pvV".toList arguments with
      | .error o => Builtin.refuseOption name o "command [-pVv] command [arg ...]"
      | .ok (os, rest) =>
        if os.any (·.2 = 'v') then Builtin.describeNames name true rest
        else if os.any (·.2 = 'V') then Builtin.describeNames name false rest
        else
          match rest with
          | [] => Act.setStatus 0
          | name :: rest => callCommand fuel false name rest
    else if name = "builtin" then
      match arguments with
      | [] => Act.setStatus 0
      | name :: rest => callBuiltin fuel name rest
    else
      match Builtin.action? s name with
      | some action => action arguments
      | none => Act.setStatus 0

/-- Runs a command by its name; a definition of the script itself counts unless it is passed over. -/
def callCommand (fuel : Nat) (definitions : Bool) (name : Text) (arguments : List Text) : Act Unit :=
  match fuel with
  | 0 => throw (.signal 9)
  | fuel + 1 => do
    let s ← get
    let isSpecial := Builtin.specialNames.contains name
    let isOwn := isSpecial || (Builtin.ordinaryNames s.dialect).contains name
    match if definitions ∧ !(s.isPlain ∧ isSpecial) then s.commands.lookup name else none with
    | some body => callDefined fuel name body arguments
    | none =>
      if isOwn then do
        let speaker := s.speaker
        let undo : Act Unit := modify fun s => { s with speaker }
        modify fun s => { s with speaker := if s.isPlain then some name else s.speaker }
        try
          callBuiltin fuel name arguments
          undo
        catch e => do
          undo
          throw e
      else callProgram fuel name arguments

/-- Runs a simple command. -/
def runSimple (fuel : Nat) (as : List Assignment) (ws : List Word) (ds : List Redirection) : Act Unit :=
  match fuel with
  | 0 => throw (.signal 9)
  | fuel + 1 => do
    modify fun s => { s with captured := none }
    let texts ← expandCommand fuel ws
    let before ← get
    let errors := before.descriptors.lookup 2
    let undo : Act Unit := Act.restore before.descriptors (changedBy ds) before.freeNumber
    match texts with
    | [] => do
      if ← redirect fuel ds then do
        undo
        let shown ← assign fuel as
        Act.trace errors shown []
        modify fun s => { s with status := s.captured.getD 0 }
      else undo
    | name :: arguments => do
      let isSpecial := before.isPlain ∧ Builtin.specialNames.contains name
      if ← redirect fuel ds then do
        let saved := (as.map Assignment.name).map fun n => (n, before.bindings.lookup n)
        let takeBack : Act Unit := do
          if !isSpecial then
            modify fun s =>
              { s with
                bindings := saved.foldl (fun (vs : Variables) (n, old) =>
                  match old with
                  | some v => Variables.set vs n v
                  | none => vs.filter (·.1 ≠ n)) s.bindings }
        try
          let shown ← assign fuel as
          for a in as do
            Act.setVariable a.name { Variables.get (← get).bindings a.name with exported := true }
          Act.trace errors shown texts
          callCommand fuel true name arguments
          takeBack
          if name = "exec" ∧ arguments = [] then pure () else undo
        catch e => do
          takeBack
          undo
          throw e
      else do
        undo
        if isSpecial then throw .exit

/-- Runs a command; a script that takes too long is killed. -/
def run (fuel : Nat) (c : Command) : Act Unit :=
  match fuel with
  | 0 => throw (.signal 9)
  | fuel + 1 => do
    let atLine (line : Nat) : Act Unit := modify fun s => { s with line }
    match c with
    | .skip => return
    | .simple line as ws ds => do
      atLine line
      runSimple fuel as ws ds
      modify fun s => { s with stages := [] }
      check fuel
    | .seq a b => do
      run fuel a
      run fuel b
    | .andThen a b => do
      Act.guarding true (run fuel a)
      if (← get).status = 0 then run fuel b
    | .orElse a b => do
      Act.guarding true (run fuel a)
      if (← get).status ≠ 0 then run fuel b
    | .negated a => do
      Act.guarding true (run fuel a)
      modify fun s => { s with status := if s.status = 0 then 1 else 0 }
    | .pipe a b => do
      let stages ← runStages fuel none (a :: b.stages)
      let failed := stages.reverse.find? (· ≠ 0)
      modify fun s =>
        { s with stages, status := if s.settings.contains "pipefail".toList then failed.getD 0 else s.status }
      check fuel
    | .background a => do
      let s ← get
      try
        Act.apart (do
          Act.openAs 0 (.supply [])
          Act.guarding false (toEnd fuel (run fuel a)))
      catch e =>
        match e with
        | .signal n => Act.setStatus (128 + n)
        | e => throw e
      modify fun t => { t with jobs := s.jobs + 1, ended := (ownNumber + s.jobs + 1, t.status) :: t.ended, status := 0 }
    | .subshell a => do
      Act.apart (toEnd fuel (run fuel a))
      modify fun s => { s with stages := [] }
      check fuel
    | .redirected line a ds => do
      atLine line
      redirected fuel ds (run fuel a)
      check fuel
    | .each line name items a => do
      atLine line
      let items ← match items with
        | some ws => expand fuel false ws
        | none => pure (← get).arguments
      Act.setStatus 0
      runEach fuel name items a
    | .count line start condition step a => do
      atLine line
      let calculate (w : Word) : Act Int := do
        let t ← whole fuel w
        if t.all Char.isWhitespace then return 1 else Act.calculate t
      let _ ← calculate start
      Act.setStatus 0
      runCount fuel (calculate condition) (calculate step) a
    | .choose c a b => do
      Act.guarding true (run fuel c)
      if (← get).status = 0 then run fuel a
      else do
        Act.setStatus 0
        run fuel b
    | .whileDo c a => runWhile fuel c a 0
    | .branch line subject bs => do
      atLine line
      let t ← whole fuel subject
      Act.setStatus 0
      runBranch fuel false t bs
    | .calculate line w => do
      atLine line
      let t ← whole fuel w
      match ← Act.sum t with
      | .ok n => Act.setStatus (if n = 0 then 1 else 0)
      | .error f => do
        Act.complain ("((: " ++ f.message t)
        Act.setStatus 1
      check fuel
    | .test line c => do
      atLine line
      let holds ← holds fuel c
      Act.setStatus (if holds then 0 else 1)
      check fuel
    | .define name body => do
      modify fun s => { s with commands := (name, body) :: s.commands.filter (·.1 ≠ name), status := 0 }

/-- Runs commands of which each reads what the one in front of it writes, and gives how they ended. -/
def runStages (fuel : Nat) (input : Option (List UInt8)) (cs : List Command) : Act (List Nat) :=
  match fuel with
  | 0 => throw (.signal 9)
  | fuel + 1 =>
    match cs with
    | [] => return []
    | c :: rest => do
      let act : Act Unit := do
        if let some bytes := input then Act.openAs 0 (.supply bytes)
        toEnd fuel (run fuel c)
      let output ←
        if rest.isEmpty then do
          Act.apart act
          pure []
        else Act.capture act
      let status := (← get).status
      return status :: (← runStages fuel (some output) rest)

/-- Runs a command as long as another one succeeds; `status` is the one of the last turn. -/
def runWhile (fuel : Nat) (c a : Command) (status : Nat) : Act Unit :=
  match fuel with
  | 0 => throw (.signal 9)
  | fuel + 1 => do
    let mut holds := false
    let goesOn ← Act.turn (Act.guarding true (run fuel c))
    if goesOn then
      holds := (← get).status = 0
      if !holds then Act.setStatus status
      else
        let goesOn ← Act.turn (run fuel a)
        if goesOn then runWhile fuel c a (← get).status

/-- Runs a command as long as an expression is not zero. -/
def runCount (fuel : Nat) (condition step : Act Int) (a : Command) : Act Unit :=
  match fuel with
  | 0 => throw (.signal 9)
  | fuel + 1 => do
    if (← condition) ≠ 0 then
      let goesOn ← Act.turn (run fuel a)
      if goesOn then do
        let _ ← step
        runCount fuel condition step a

/-- Runs a command once for each item. -/
def runEach (fuel : Nat) (name : Text) (items : List Text) (c : Command) : Act Unit :=
  match fuel with
  | 0 => throw (.signal 9)
  | fuel + 1 =>
    match items with
    | [] => return
    | i :: items => do
      Act.assign name i
      let goesOn ← Act.turn (run fuel c)
      if goesOn then runEach fuel name items c

/-- Whether one of these words covers a text as a pattern. -/
def covered (fuel : Nat) (t : Text) (ws : List Word) : Act Bool :=
  match fuel with
  | 0 => return false
  | fuel + 1 =>
    match ws with
    | [] => return false
    | w :: ws => do
      let p ← pattern fuel w
      if Pattern.covers p t then return true else covered fuel t ws

/-- Runs the first branch with a pattern that covers a text, or the first one of all if `taken` tells so, and
those that follow it. -/
def runBranch (fuel : Nat) (taken : Bool) (t : Text) (bs : List (List Word × Command × AfterBranch)) : Act Unit :=
  match fuel with
  | 0 => throw (.signal 9)
  | fuel + 1 =>
    match bs with
    | [] => return
    | (ws, c, after) :: bs => do
      let applies ← if taken then pure true else covered fuel t ws
      if !applies then runBranch fuel false t bs
      else do
        run fuel c
        match after with
        | .leave => return
        | .next => runBranch fuel true t bs
        | .search => runBranch fuel false t bs

/-- Whether a condition between double brackets holds. -/
def holds (fuel : Nat) (c : Condition) : Act Bool :=
  match fuel with
  | 0 => return false
  | fuel + 1 =>
    match c with
    | .negated a => return !(← holds fuel a)
    | .both a b => do
      if ← holds fuel a then holds fuel b else return false
    | .either a b => do
      if ← holds fuel a then return true else holds fuel b
    | .unary operator w => do
      let t ← whole fuel w
      let s ← get
      if operator = "-v" then return Builtin.isSet s t
      else if operator = "-o" then
        return s.settings.contains t || ((Builtin.optionNames .bash).lookup t).any s.letters.contains
      else
        match Tool.unaryHolds (some .bash) s.files operator t with
        | .ok b => return b
        | .error _ => return false
    | .binary operator a b => do
      let t ← whole fuel a
      let s ← get
      if operator = "=~" then do
        let p ← pattern fuel b
        match Expression.read .extended (expressionText p) with
        | .error _ => return false
        | .ok e =>
          match Expression.find? {} e t with
          | none => return false
          | some h => do
            let groups := (List.range (1 + (h.groups.map Prod.fst).foldl max 0)).map fun n =>
              if n = 0 then (t.drop h.start).take (h.stop - h.start) else (h.groups.lookup n).getD []
            Act.giveList "BASH_REMATCH" false (groups.map (none, ·))
            return true
      else if operator = "=" ∨ operator = "==" ∨ operator = "!=" then do
        let p ← pattern fuel b
        let isCovered := Pattern.covers p t
        return if operator = "!=" then !isCovered else isCovered
      else do
        let u ← whole fuel b
        if operator = "<" then return decide (t < u)
        else if operator = ">" then return decide (u < t)
        else if ["-eq", "-ne", "-lt", "-le", "-gt", "-ge"].any (operator = String.toList ·) then do
          let m ← Act.calculate t
          let n ← Act.calculate u
          return if operator = "-eq" then m = n else if operator = "-ne" then m ≠ n else if operator = "-lt" then m < n
            else if operator = "-le" then m ≤ n else if operator = "-gt" then n < m else n ≤ m
        else
          match Tool.binaryHolds (some .bash) s.files operator t u with
          | .ok b => return b
          | .error _ => return false

/-- Runs a script in a shell of its own, which has been called by a name. -/
def startShell (fuel : Nat) (d : Dialect) (called : Text) (arguments : List Text) (environment : List (Text × Text)) :
    Act ExitStatus :=
  match fuel with
  | 0 => return .signal 9
  | fuel + 1 => fun s =>
    let bindings : Variables := environment.reverse.map fun (n, v) => (n, { items := [(['0'], v)], exported := true })
    let own (vs : Variables) (n v : Text) (exported : Bool) : Variables :=
      Variables.set vs n { (Variables.get vs n) with items := [(['0'], v)], exported }
    let bindings := own (own (own bindings "PWD" (Tool.absolute s.files.home) true) "OPTIND" ['1'] false) "IFS" " \t\n" false
    let fresh : State :=
      { toWorld := s.toWorld
        toProcess := { dialect := d, name := called, bindings, descriptors := s.descriptors } }
    let said (message : Text) (status : Nat) : Act Unit := do
      Act.say (called ++ ": " ++ message ++ "\n")
      Act.setStatus status
    let act : Act Unit := do
      match readArguments (arguments.length + 1) fresh false false arguments with
      | .error f =>
        let option : Text := match f with
          | .letter sign c => [sign, c]
          | .name _ name => name
        said (if d = .dash then "0: Illegal option " ++ option else option ++ ": invalid option") 2
      | .ok (started, place) => do
        set started
        match place with
        | none => said (if d = .dash then "0: -c requires an argument" else "-c: option requires an argument") 2
        | some (.text t) => do
          if d = .bash then modify fun s => { s with speaker := some "-c" }
          runText fuel t 0
        | some .input => do
          let bytes := match (s.descriptors.lookup 0).map s.toWorld.readable with
            | some (.ok (bytes, _)) => bytes
            | _ => []
          if let some n := s.descriptors.lookup 0 then
            modify fun s => { s with toWorld := s.toWorld.leave n [] }
          runText fuel (Utf8.decodeLossy bytes) 0
        | some (.file path) =>
          match s.files.read path with
          | .ok bytes => runText fuel (Utf8.decodeLossy bytes) 0
          | .error f =>
            if d = .dash then said ("0: " ++ Act.openingFault path false f) 2
            else said (path ++ ": " ++ Tool.reason f) (if f = .isADirectory then 126 else 127)
    let finished (t : State) : State :=
      { s with
        files := { t.files with home := s.files.home }
        streams := t.streams.filter (·.1 < s.freeNumber) }
    match toEnd fuel act fresh with
    | .ok _ t => .ok (.code t.status) (finished t)
    | .error (.signal n) t => .ok (.signal n) (finished t)
    | .error _ t => .ok (.code t.status) (finished t)

end

end SchemaDrift.Shell
