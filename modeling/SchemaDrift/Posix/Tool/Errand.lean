import SchemaDrift.Posix.Tool.Lines
import SchemaDrift.Posix.Text.Escape
import SchemaDrift.Posix.Text.Pattern

namespace SchemaDrift

/-- A command that a program of the system has run in its turn. -/
structure Errand where
  words : List Text
  environment : List (Text × Text)
  /-- What it can read, if that is not what its caller reads. -/
  input : Option (List UInt8) := none
  /-- What its caller says if it cannot be run. -/
  refusal : Text
  /-- What its caller says over an exit code behind which it has no further command run. -/
  ending : Nat → Option Text := fun _ => none

/-- What a program does itself, and the commands that it has run behind that. -/
structure Plan where
  effect : Effect := {}
  errands : List Errand := []
  /-- The exit code that the exit codes of the commands come to. -/
  status : List Nat → Nat := fun codes => codes.getLastD 0

namespace Plan

/-- Nothing but what the program does itself. -/
def ofEffect (e : Effect) : Plan := { effect := e, status := fun _ => e.status }

end Plan

namespace Tool

/-- A name and its value on either side of the first equals sign. -/
def isSetting (a : Text) : Bool := a.contains '=' && a.head? ≠ some '='

/-- Runs a command with values added to its environment, or shows the environment. -/
def env (around : Surroundings) (called : Text) (arguments : List Text) : Plan :=
  let form : OptionForm :=
    { flags := "i0v".toList, valued := "uCS".toList, anywhere := false
      long := [("ignore-environment", 'i'), ("unset", 'u'), ("null", '0'), ("chdir", 'C'), ("split-string", 'S')].map
        fun (n, c) => (n.toList, c) }
  match Options.read form arguments with
  | .error message => .ofEffect (misuse called message 125)
  | .ok o =>
    let operands := (o.values 'S').flatMap wordsOf ++ o.operands
    let (isEmpty, operands) := if operands.head? = some ['-'] then (true, operands.tail) else (o.has 'i', operands)
    let added := operands.takeWhile isSetting
    let words := operands.drop added.length
    let kept := if isEmpty then [] else around.environment.filter fun (n, _) => !(o.values 'u').contains n
    let environment := added.foldl (fun (vs : List (Text × Text)) a =>
      match Text.cutAt? '=' a with
      | some (n, v) => if vs.any (·.1 = n) then vs.map fun (m, w) => (m, if m = n then v else w) else vs ++ [(n, v)]
      | none => vs) kept
    match words with
    | [] =>
      let ending : Text := if o.has '0' then ['\x00'] else ['\n']
      .ofEffect (.output (Utf8.encode (environment.flatMap fun (n, v) => n ++ '=' :: v ++ ending)))
    | name :: _ => { errands := [{ words, environment, refusal := called ++ ": " ++ quoted name ++ ": " }] }

/-- Runs a command in the way of the programs that only change the terms on which it runs; `options` are
those of theirs that have a value, and so many operands stand in front of the command. -/
def wrapped (around : Surroundings) (called : Text) (flags options : Text) (front : Nat) (failure : Nat)
    (refusal : Text → Text) (check : List Text → Option Text) (arguments : List Text) : Plan :=
  match Options.read { flags, valued := options, anywhere := false } arguments with
  | .error message => .ofEffect (misuse called message failure)
  | .ok o =>
    match check (o.operands.take front), o.operands.drop front with
    | some message, _ => .ofEffect (misuse called message failure)
    | none, [] =>
      let hint : Text := "Try '" ++ called ++ " --help' for more information."
      .ofEffect (if 0 < front then .complaint failure hint else misuse called "missing operand" failure)
    | none, name :: rest =>
      { errands := [{ words := name :: rest, environment := around.environment, refusal := refusal name }] }

def timeout (around : Surroundings) (called : Text) (arguments : List Text) : Plan :=
  let isTime (t : Text) : Bool :=
    let ds := t.takeWhile fun c => c.isDigit || c = '.'
    ds ≠ [] && (t.drop ds.length = [] || ['s', 'm', 'h', 'd'].any (t.drop ds.length = [·]))
  wrapped around called "fpv".toList "ks".toList 1 125 (fun n => called ++ ": failed to run command " ++ quoted n ++ ": ")
    (fun front => match front with
      | [] => none
      | t :: _ => if isTime t then none else some ("invalid time interval " ++ quoted t)) arguments

def nice (around : Surroundings) (called : Text) (arguments : List Text) : Plan :=
  if arguments = [] then .ofEffect (.line ['0'])
  else wrapped around called [] ['n'] 0 125 (fun n => called ++ ": " ++ quoted n ++ ": ") (fun _ => none) arguments

def nohup (around : Surroundings) (called : Text) (arguments : List Text) : Plan :=
  wrapped around called [] [] 0 125 (fun n => called ++ ": failed to run command " ++ quoted n ++ ": ") (fun _ => none)
    arguments

/-- The words in a text, where quotes and backslashes keep blanks within a word. -/
def quotedWords (fuel : Nat) (word : Option Text) (t : Text) : Except Text (List Text) :=
  match fuel with
  | 0 => .ok word.toList
  | fuel + 1 =>
    let grown (a : Text) : Option Text := some (word.getD [] ++ a)
    match t with
    | [] => .ok word.toList
    | '\\' :: c :: r => quotedWords fuel (grown [c]) r
    | c :: r =>
      if isBlankByte c then do return word.toList ++ (← quotedWords fuel none r)
      else if c = '\'' ∨ c = '"' then
        let inner := r.takeWhile fun x => x ≠ c && x ≠ '\n'
        match r.drop inner.length with
        | x :: r =>
          if x = c then quotedWords fuel (grown inner) r
          else .error (if c = '"' then "double" else "single")
        | [] => .error (if c = '"' then "double" else "single")
      else quotedWords fuel (grown [c]) r

def groupsOf (size : Nat) (fuel : Nat) (ws : List Text) : List (List Text) :=
  match fuel with
  | 0 => []
  | fuel + 1 => if ws = [] then [] else ws.take size :: groupsOf size fuel (ws.drop size)

/-- Runs a command with words from the input as further arguments. -/
def xargs (around : Surroundings) (called : Text) (arguments : List Text) : Plan :=
  let form : OptionForm :=
    { flags := "0rtpx".toList, valued := "nILPdsEa".toList, optional := "il".toList, anywhere := false
      long := [("null", '0'), ("no-run-if-empty", 'r'), ("max-args", 'n'), ("delimiter", 'd'), ("replace", 'i'), ("max-procs", 'P'),
        ("max-lines", 'l'), ("verbose", 't')].map fun (n, c) => (n.toList, c) }
  match Options.read form arguments with
  | .error message => .ofEffect (misuse called message 1)
  | .ok o =>
    let t := Bytes.toText around.input
    let mark : Option Text := if o.has 'I' then o.value? 'I' else if o.has 'i' then some "\x7b\x7d".toList else none
    let byLine := mark.isSome || o.has 'L' || o.has 'l'
    let divided (c : Char) : List Text :=
      let parts := t.splitOn c
      if parts.getLast? = some [] then parts.dropLast else parts
    let delimiter? : Option Char := if o.has '0' then some '\x00'
      else (o.value? 'd').map fun d => ((Escape.bytes {} d).map fun b => Char.ofNat b.toNat).headD '\n'
    let items : Except Text (List (List Text)) := match delimiter? with
      | some c => .ok ((divided c).map fun w => [w])
      | none =>
        if mark.isSome then .ok (((divided '\n').map fun l => [l.dropWhile isBlankByte]).filter (· ≠ [[]]))
        else if byLine then ((divided '\n').mapM fun l => quotedWords (l.length + 1) none l).map (·.filter (· ≠ []))
        else (quotedWords (t.length + 1) none t).map (·.map fun w => [w])
    let command := if o.operands = [] then ["echo".toList] else o.operands
    match items with
    | .error q =>
      .ofEffect (.complaint 1 (called ++ ": unmatched " ++ q ++ " quote; by default quotes are special to xargs unless you use the -0 option"))
    | .ok groups =>
      let words := groups.flatten
      let size (c : Char) : Option Nat := ((o.value? c).bind natural?)
      let calls : List (List Text) := match mark with
        | some m =>
          groups.map fun ws => command.map fun a => Pattern.replaceCovered true (m.map (⟨·, true⟩)) ws.flatten (a.length + 1) a
        | none =>
          if o.has 'L' ∨ o.has 'l' then
            let n := (size 'L').getD 1
            (List.range ((groups.length + n - 1) / n)).map fun k => command ++ ((groups.drop (k * n)).take n).flatten
          else
            match size 'n' with
            | some (n + 1) => (groupsOf (n + 1) (words.length + 1) words).map (command ++ ·)
            | _ => [command ++ words]
      let calls := if words = [] ∧ (o.has 'r' ∨ mark.isSome) then [] else if calls = [] then [command] else calls
      let traced : Effect := if o.has 't' then
          { writes := calls.map fun ws => (2, Utf8.encode (List.intercalate " " ws ++ ['\n'])) }
        else {}
      { effect := { traced with rest := some [] }
        errands := calls.map fun words =>
          let name := words.headD []
          { words, environment := around.environment, input := some [], refusal := called ++ ": " ++ name ++ ": "
            ending := fun code =>
              if code = 255 then some (called ++ ": " ++ name ++ ": exited with status 255; aborting\n")
              else if code = 127 ∨ code = 126 then some []
              else none }
        status := fun codes =>
          if codes.any fun n => n = 127 || n = 126 then codes.foldl max 0
          else if codes.any (· = 255) then 124
          else if codes.any (· ≠ 0) then 123
          else 0 }

end Tool
end SchemaDrift
