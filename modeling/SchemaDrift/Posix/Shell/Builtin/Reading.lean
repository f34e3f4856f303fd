import SchemaDrift.Posix.Shell.Builtin.Naming

namespace SchemaDrift.Shell.Builtin

/-- A character that has been read; one behind a backslash stands for itself. -/
structure ReadChar where
  char : Char
  plain : Bool

/-- The characters of a line and what is left behind it; a backslash in front of a line break continues the
line unless it is `raw`. Tells also whether the line has an end. -/
def lineChars (raw : Bool) (ending : Char) : Text → List ReadChar × Text × Bool
  | [] => ([], [], false)
  | '\\' :: c :: r =>
    if raw then
      if ending = '\\' then ([], c :: r, true)
      else
        let (cs, rest) := lineChars raw ending (c :: r)
        (⟨'\\', true⟩ :: cs, rest)
    else
      let (cs, rest) := lineChars raw ending r
      (if c = '\n' then cs else ⟨c, true⟩ :: cs, rest)
  | c :: r =>
    if c = ending then ([], r, true)
    else
      let (cs, rest) := lineChars raw ending r
      (if c = '\\' ∧ !raw then cs else ⟨c, false⟩ :: cs, rest)

/-- Divides what has been read among so many names; the last one gets all that is left. -/
def share (divider : Text) (fuel names : Nat) (cs : List ReadChar) : List Text :=
  let divides (c : ReadChar) : Bool := !c.plain && divider.contains c.char
  let isBlank (c : ReadChar) : Bool := divides c && [' ', '\t', '\n'].contains c.char
  let text (cs : List ReadChar) : Text := cs.map ReadChar.char
  match fuel with
  | 0 => []
  | fuel + 1 =>
    let cs := cs.dropWhile isBlank
    let word := cs.takeWhile (!divides ·)
    let rest := (cs.drop word.length).dropWhile isBlank
    let behind := (if rest.head?.any divides then rest.tail else rest).dropWhile isBlank
    if names ≤ 1 then
      if behind.isEmpty then [text word] else [text (cs.reverse.dropWhile isBlank).reverse]
    else if cs.isEmpty then List.replicate names []
    else text word :: share divider fuel (names - 1) behind

/-- All fields of what has been read. -/
def allFields (divider : Text) (fuel : Nat) (cs : List ReadChar) : List Text :=
  let n := cs.length + 1
  ((share divider fuel n cs).reverse.dropWhile (· = [])).reverse

/-- Reads a line and gives its words to names. -/
def read (arguments : List Text) : Act Unit := do
  let s ← get
  let letters : Text := if s.isPlain then "rp".toList else "rsepnNdtuai".toList
  let valued : Text := if s.isPlain then ['p'] else "pnNdtuai".toList
  let rec options (fuel : Nat) (given : List (Char × Text)) (ws : List Text) : Except Text (List (Char × Text) × List Text) :=
    match fuel with
    | 0 => .ok (given, ws)
    | fuel + 1 =>
      match ws with
      | ['-', '-'] :: rest => .ok (given, rest)
      | ('-' :: c :: r) :: rest =>
        if !letters.contains c then .error ['-', c]
        else if valued.contains c then
          if r ≠ [] then options fuel ((c, r) :: given) rest else options fuel ((c, rest.headD []) :: given) rest.tail
        else options fuel ((c, []) :: given) (if r = [] then rest else ('-' :: r) :: rest)
      | rest => .ok (given, rest)
  match options (2 * arguments.flatten.length + arguments.length + 2) [] arguments with
  | .error o =>
    if s.isPlain then report "read" ("Illegal option " ++ o) 2
    else refuseOption "read" o "read [-ers] [-a array] [-d delim] [-i text] [-n nchars] [-N nchars] [-p prompt] [-t timeout] [-u fd] [name ...]"
  | .ok (given, names) =>
    let value (c : Char) : Option Text := given.lookup c
    if s.isPlain ∧ names = [] then report "read" "arg count" 2
    else
      match names.find? (!isName ·) with
      | some n =>
        if s.isPlain then report "read" (n ++ ": bad variable name") 2
        else report "read" ("\x60" ++ n ++ "': not a valid identifier") 1
      | none =>
        let source := ((value 'u').bind count?).getD 0
        match s.descriptors.lookup source with
        | none =>
          if s.isPlain then Act.setStatus 1
          else report "read" (Text.ofNat source ++ ": invalid file descriptor: Bad file descriptor") 1
        | some stream =>
          match s.toWorld.readable stream with
          | .error _ =>
            if s.isPlain then Act.setStatus 1 else report "read" "read error: 0: Bad file descriptor" 1
          | .ok (bytes, _) => do
            let input := bytes.map fun b => Char.ofNat b.toNat
            let ending : Char := match value 'd' with
              | some (c :: _) => c
              | some [] => '\x00'
              | none => '\n'
            let limit := ((value 'n').or (value 'N')).bind count?
            let raw := given.any (·.1 = 'r')
            let (cs, rest, isEnded) := match limit with
              | none => lineChars raw ending input
              | some n =>
                let (cs, rest, isEnded) := lineChars raw ending (input.take n)
                (cs, rest ++ input.drop n, isEnded || cs.length = n)
            modify fun s => { s with toWorld := s.toWorld.leave stream (rest.map fun c => UInt8.ofNat c.toNat) }
            let decoded (t : Text) : Text := Utf8.decodeLossy ((t.filter (· ≠ '\x00')).map fun c => UInt8.ofNat c.toNat)
            let cs := cs.filter fun c => c.char ≠ '\x00'
            let divider := s.divider
            match value 'a' with
            | some name => Act.giveList name false ((allFields divider (cs.length + 2) cs).map fun t => (none, decoded t))
            | none =>
              if names = [] ∨ (value 'N').isSome then
                Act.assign (names.headD "REPLY") (decoded (cs.map ReadChar.char))
              else
                for (n, t) in names.zip (share divider (names.length + cs.length + 1) names.length cs) do
                  Act.assign n (decoded t)
            Act.setStatus (if isEnded then 0 else 1)

/-- Reads all lines into a list. -/
def mapfile (arguments : List Text) : Act Unit := do
  let s ← get
  match leadingOptions "t".toList arguments with
  | .error o => refuseOption "mapfile" o "mapfile [-d delim] [-n count] [-O origin] [-s count] [-t] [-u fd] [-C callback] [-c quantum] [array]"
  | .ok (os, rest) => do
    let bytes := match (s.descriptors.lookup 0).map s.toWorld.readable with
      | some (.ok (bytes, _)) => bytes
      | _ => []
    if let some n := s.descriptors.lookup 0 then
      modify fun s => { s with toWorld := s.toWorld.leave n [] }
    let pieces := (Utf8.decodeLossy bytes).splitOn '\n'
    let isOpen := pieces.getLast? ≠ some []
    let lines := if isOpen then pieces else pieces.dropLast
    let count := lines.length
    let lines := ((List.range count).zip lines).map fun (i, l) =>
      if os ≠ [] ∨ isOpen ∧ i + 1 = count then l else l ++ ['\n']
    Act.giveList (rest.headD "MAPFILE") false (lines.map (none, ·))
    Act.setStatus 0

end SchemaDrift.Shell.Builtin
