import SchemaDrift.Posix.Tool.Lines
import SchemaDrift.Posix.Text.CharSet

namespace SchemaDrift.Tool

/-- Places from a first to a last one, counted from one; without a last one, to the end. -/
abbrev Span : Type := Nat × Option Nat

def span? (t : Text) : Option Span :=
  match Text.cutAt? '-' t with
  | none => (natural? t).bind fun n => if t = [] ∨ n = 0 then none else some (n, some n)
  | some (a, b) => do
    if a = [] ∧ b = [] then none
    else
      let first ← if a = [] then some 1 else natural? a
      let last ← if b = [] then some none else (natural? b).map some
      if first = 0 ∨ last.any (· < first) then none else some (first, last)

def spans? (t : Text) : Option (List Span) := (t.splitOnP fun c => c = ',' || c = ' ').mapM span?

def isIn (spans : List Span) (n : Nat) : Bool := spans.any fun (a, b) => a ≤ n && b.all (n ≤ ·)

def cutForm : OptionForm :=
  { flags := "nszκ".toList, valued := "bcdfο".toList
    long := [("bytes", 'b'), ("characters", 'c'), ("delimiter", 'd'), ("fields", 'f'), ("only-delimited", 's'),
      ("complement", 'κ'), ("output-delimiter", 'ο')].map fun (n, c) => (n.toList, c) }

/-- Writes some columns of each line: fields between delimiters, or single characters. -/
def cut (around : Surroundings) (called : Text) (arguments : List Text) : Effect :=
  withOptions called cutForm arguments fun o =>
    let delimiter := (o.value? 'd').getD ['\t']
    match o.given.find? fun (c, _) => ['b', 'c', 'f'].contains c with
    | none => misuse called "you must specify a list of bytes, characters, or fields"
    | some (c, list) =>
      let refused : Text :=
        if list.any fun c => !c.isDigit && c ≠ '-' && c ≠ ',' then
          "invalid " ++ (if c = 'f' then "field" else "byte/character") ++ " value '" ++ list ++ "'"
        else if (list.splitOn ',').any (· = ['-']) then "invalid range with no endpoint: -"
        else if (list.splitOn ',').any fun s => s = "0" || s = "0-" then
          if c = 'f' then "fields are numbered from 1" else "byte/character positions are numbered from 1"
        else "invalid decreasing range"
      if (o.given.filter fun (c, _) => ['b', 'c', 'f'].contains c).length > 1 then misuse called "only one list may be specified"
      else if (Bytes.ofChars delimiter).length ≠ 1 then misuse called "the delimiter must be a single character"
      else if o.has 'd' ∧ c ≠ 'f' then misuse called "an input delimiter may be specified only when operating on fields"
      else if o.has 's' ∧ c ≠ 'f' then
        misuse called "suppressing non-delimited lines makes sense\n\tonly when operating on fields"
      else
        match spans? list with
        | none => misuse called refused
        | some spans =>
          let keeps (n : Nat) : Bool := isIn spans n ≠ o.has 'κ'
          let kept (ts : List Text) : List Text :=
            ((List.range ts.length).zip ts).filterMap fun (n, t) => if keeps (n + 1) then some t else none
          let separator := Bytes.ofChars ((o.value? 'ο').getD (if c = 'f' then delimiter else []))
          let line (body : Text) : Option Text :=
            if c = 'f' then
              let mark := (Bytes.ofChars delimiter).headD '\t'
              if !body.contains mark then if o.has 's' then none else some body
              else some (List.intercalate separator (kept (body.splitOn mark)))
            else some (List.intercalate separator (kept (body.map fun c => [c])))
          let e := forEach (contents around o.operands) (unread called ·) fun _ t =>
            .output (Bytes.ofText ((Bytes.lines t).flatMap fun l =>
              match line (Bytes.body l) with
              | some l => l ++ ['\n']
              | none => []))
          { e with rest := usedInput o.operands }

/-- The characters of a list of delimiters, in which a backslash stands in front of a letter for a control. -/
def delimiters : Text → List Text
  | [] => []
  | '\\' :: c :: r => (if c = 'n' then ['\n'] else if c = 't' then ['\t'] else if c = '0' then [] else [c]) :: delimiters r
  | c :: r => [c] :: delimiters r

/-- Texts with delimiters between them, taken in turn. -/
def joined (ds : List Text) (ts : List Text) : Text :=
  (((List.range ts.length).zip ts).flatMap fun (n, t) =>
    (if n = 0 then [] else ds.getD ((n - 1) % max ds.length 1) []) ++ t)

/-- Writes lines of several files side by side, or the lines of each file one behind the other. -/
def paste (around : Surroundings) (called : Text) (arguments : List Text) : Effect :=
  withOptions called { flags := "sz".toList, valued := ['d'], long := [("serial".toList, 's'), ("delimiters".toList, 'd')] }
    arguments fun o =>
    let ds := delimiters (Bytes.ofChars ((o.value? 'd').getD ['\t']))
    let cs := contents around o.operands
    match cs.find? (·.bytes.toOption.isNone) with
    | some c =>
      match c.bytes with
      | .error f => unread called c f
      | .ok _ => {}
    | none =>
      let fromInput := (cs.filter (fun c => c.path = ['-'])).length
      let lines (c : Content) : List Text := (Bytes.lines (c.bytes.toOption.getD [])).map Bytes.body
      let place (n : Nat) : Nat := ((cs.take n).filter (fun c => c.path = ['-'])).length
      let column (n : Nat) (c : Content) : List Text :=
        let ls := lines c
        if c.path = "-" ∧ fromInput > 1 then
          ((List.range ls.length).zip ls).filterMap fun (k, l) => if k % fromInput = place n then some l else none
        else ls
      let rows : List Text :=
        if o.has 's' then cs.map fun c => joined ds (lines c)
        else
          let columns := ((List.range cs.length).zip cs).map fun (n, c) => column n c
          let size := (columns.map List.length).foldl max 0
          (List.range size).map fun k => joined ds (columns.map fun c => c.getD k [])
      { Effect.output (Bytes.ofText (rows.flatMap (· ++ ['\n']))) with rest := usedInput o.operands }

/-- The characters that a written set lists: single ones, ranges, classes between colons, and repetitions;
`none` stands for as many of a character as are needed. -/
def setMembers (fuel : Nat) (t : Text) : List (Char × Option Unit) :=
  match fuel with
  | 0 => []
  | fuel + 1 =>
    let bytes := (List.range 256).map Char.ofNat
    let classOf (name : Text) : List (Char × Option Unit) :=
      (bytes.filter (CharSet.isNamed name)).map (·, some ())
    let escaped (c : Char) (r : Text) : Char × Text :=
      let digits := ((c :: r).take 3).takeWhile fun c => '0' ≤ c && c ≤ '7'
      if digits ≠ [] then (Char.ofNat (digits.foldl (fun n c => 8 * n + (c.toNat - 48)) 0 % 256), (c :: r).drop digits.length)
      else
        (([('n', '\n'), ('t', '\t'), ('r', '\r'), ('a', '\x07'), ('b', '\x08'), ('f', '\x0c'), ('v', '\x0b')].lookup c).getD c, r)
    let one (c : Char) (r : Text) : List (Char × Option Unit) :=
      match r with
      | '-' :: d :: r =>
        let (d, r) := if d = '\\' then escaped (r.headD '\\') r.tail else (d, r)
        ((List.range (d.toNat + 1 - c.toNat)).map fun n => (Char.ofNat (c.toNat + n), some ())) ++ setMembers fuel r
      | r => (c, some ()) :: setMembers fuel r
    match t with
    | [] => []
    | '[' :: ':' :: r =>
      let name := r.takeWhile (· ≠ ':')
      match Text.dropStart? ":]" (r.drop name.length) with
      | some rest => classOf name ++ setMembers fuel rest
      | none => one '[' (':' :: r)
    | '[' :: c :: '*' :: r =>
      let digits := r.takeWhile Char.isDigit
      match r.drop digits.length with
      | ']' :: rest =>
        (if digits = [] ∨ digits = "0" then [(c, none)] else List.replicate ((natural? digits).getD 0) (c, some ())) ++
          setMembers fuel rest
      | _ => one '[' (c :: '*' :: r)
    | '\\' :: c :: r =>
      let (c, r) := escaped c r
      one c r
    | c :: r => one c r

/-- What is wrong with a written set. -/
def setFault? (fuel : Nat) (t : Text) : Option Text :=
  match fuel with
  | 0 => none
  | fuel + 1 =>
    match t with
    | [] => none
    | '[' :: ':' :: r =>
      let name := r.takeWhile (· ≠ ':')
      match Text.dropStart? ":]" (r.drop name.length) with
      | some rest =>
        if CharSet.classNames.contains name then setFault? fuel rest else some ("invalid character class '" ++ name ++ "'")
      | none => setFault? fuel (':' :: r)
    | '\\' :: _ :: r => setFault? fuel r
    | a :: '-' :: b :: r =>
      if b = '\\' then setFault? fuel (b :: r)
      else if b < a then
        some ("range-endpoints of '" ++ [a, '-', b] ++ "' are in reverse collating sequence order")
      else setFault? fuel r
    | _ :: r => setFault? fuel r

/-- The members of a second set of which as many are needed as the first one has. -/
def filledSet (size : Nat) (members : List (Char × Option Unit)) : Text :=
  let fixed := (members.filter (·.2.isSome)).length
  members.flatMap fun (c, fixedOne) => if fixedOne.isSome then [c] else List.replicate (size - fixed) c

/-- One character for each run of the same one out of a set. -/
def squeezed (set : Text) : Text → Text
  | a :: b :: r => if a = b ∧ set.contains a then squeezed set (b :: r) else a :: squeezed set (b :: r)
  | t => t

def trForm : OptionForm :=
  { flags := "cCdst".toList, anywhere := false
    long := [("complement", 'c'), ("delete", 'd'), ("squeeze-repeats", 's'), ("truncate-set1", 't')].map
      fun (n, c) => (n.toList, c) }

/-- Writes what it reads with other characters in the place of some, or without them. -/
def tr (around : Surroundings) (called : Text) (arguments : List Text) : Effect :=
  withOptions called trForm arguments fun o =>
    let complements := o.has 'c' || o.has 'C'
    let set (t : Text) : List (Char × Option Unit) := setMembers (t.length + 1) (Bytes.ofChars t)
    let first (t : Text) : Text :=
      let members := (set t).map Prod.fst
      if complements then ((List.range 256).map Char.ofNat).filter (!members.contains ·) else members
    let input := Bytes.toText around.input
    let refused (message : Text) : Effect := .complaint 1 (called ++ ": " ++ message)
    let write (t : Text) : Effect := { Effect.output (Bytes.ofText t) with rest := some [] }
    let wrong : Option Text := o.operands.findSome? fun t => setFault? (t.length + 1) (Bytes.ofChars t)
    let isCaseClass (t : Text) : Bool := Text.hasText "[:upper:]" t || Text.hasText "[:lower:]" t
    match o.operands, wrong with
    | [_], some message | [_, _], some message => refused message
    | [], _ => misuse called "missing operand"
    | [a], _ =>
      if o.has 'd' ∧ !o.has 's' then write (input.filter (!(first a).contains ·))
      else if o.has 's' ∧ !o.has 'd' then write (squeezed (first a) input)
      else if o.has 'd' then
        misuse called ("missing operand after '" ++ a ++ "'\nTwo strings must be given when both deleting and squeezing repeats.")
      else misuse called ("missing operand after '" ++ a ++ "'\nTwo strings must be given when translating.")
    | [a, b], _ =>
      let froms := first a
      let target := filledSet froms.length (set b)
      if o.has 'd' then
        if o.has 's' then write (squeezed target (input.filter (!froms.contains ·)))
        else misuse called ("extra operand '" ++ b ++ "'\nOnly one string may be given when deleting without squeezing repeats.")
      else if target = [] then refused "when not truncating set1, string2 must be non-empty"
      else if isCaseClass b ∧ !isCaseClass a then refused "misaligned [:upper:] and/or [:lower:] construct"
      else
        let size := if o.has 't' then min froms.length target.length else froms.length
        let pairs := ((froms.take size).zip (target ++ List.replicate (size - target.length) (target.getLastD ' '))).reverse
        let exchanged := input.map fun c => (pairs.lookup c).getD c
        write (if o.has 's' then squeezed target exchanged else exchanged)
    | _, _ => misuse called ("extra operand '" ++ o.operands.getD 2 [] ++ "'")

/-- Writes what it reads, and keeps it in files as well. -/
def tee (around : Surroundings) (called : Text) (arguments : List Text) : Effect :=
  withOptions called { flags := "aip".toList, long := [("append".toList, 'a')] } arguments fun o =>
    let (files, e) := o.operands.foldl (fun (files, (e : Effect)) path =>
      match (files.openFile path (!o.has 'a') (o.has 'a')).bind fun (c, files) => files.write c around.input with
      | .ok (_, files) => (files, e)
      | .error f => (files, e.andThen (.complaint 1 (called ++ ": " ++ shown path ++ ": " ++ reason f)))) (around.files, ({} : Effect))
    { (e.andThen (.output around.input)) with files := some files, rest := some [] }

/-- Breaks lines so that none is wider than so many characters. -/
def fold (around : Surroundings) (called : Text) (arguments : List Text) : Effect :=
  let arguments : List Text := arguments.map fun (a : Text) =>
    match a with
    | '-' :: c :: r => if c.isDigit then '-' :: 'w' :: c :: r else a
    | a => a
  withOptions called { flags := "bs".toList, valued := ['w'], long := [("width".toList, 'w'), ("spaces".toList, 's')] }
    arguments fun o =>
    let given := (o.value? 'w').getD "80".toList
    let refused : Option Text :=
      if given = [] ∨ (natural? given).isNone then some (quoted given)
      else if natural? given = some 0 then some (quoted given ++ ": Numerical result out of range")
      else none
    if let some why := refused then .complaint 1 (called ++ ": invalid number of columns: " ++ why)
    else
    let width := (natural? given).getD 80
    let rec broken (fuel : Nat) (t : Text) : List Text :=
      match fuel with
      | 0 => [t]
      | fuel + 1 =>
        if t.length ≤ width then [t]
        else
          let piece := t.take width
          let upToGap := (piece.reverse.dropWhile (· ≠ ' ')).reverse
          let piece := if o.has 's' ∧ upToGap ≠ [] then upToGap else piece
          piece :: broken fuel (t.drop piece.length)
    let line (l : Text) : Text :=
      List.intercalate "\n" (broken l.length (Bytes.body l)) ++ l.drop (Bytes.body l).length
    let e := forEach (contents around o.operands) (unread called ·) fun _ t =>
      .output (Bytes.ofText ((Bytes.lines t).flatMap line))
    { e with rest := usedInput o.operands }

/-- Writes blanks in the place of tab characters, up to the next column that is a multiple of a width. -/
def expand (around : Surroundings) (called : Text) (arguments : List Text) : Effect :=
  withOptions called { flags := ['i'], valued := ['t'], long := [("initial".toList, 'i'), ("tabs".toList, 't')] }
    arguments fun o =>
    match natural? ((o.value? 't').getD ['8']) with
    | none | some 0 =>
      .complaint 1 (called ++ ": tab size contains invalid character(s): " ++ quoted ((o.value? 't').getD []))
    | some width =>
      let written (t : Text) : Text :=
        let (_, _, out) := t.foldl (fun (column, isFront, out) c =>
          if c = '\n' then (0, true, c :: out)
          else if c = '\t' ∧ (isFront ∨ !o.has 'i') then
            let gap := width - column % width
            (column + gap, isFront, List.replicate gap ' ' ++ out)
          else (column + 1, isFront && isBlankByte c, c :: out)) (0, true, ([] : Text))
        out.reverse
      let e := forEach (contents around o.operands) (unread called ·) fun _ t => .output (Bytes.ofText (written t))
      { e with rest := usedInput o.operands }

end SchemaDrift.Tool
