import SchemaDrift.Posix.Tool.Lines

namespace SchemaDrift.Tool

/-- What the order of keys goes by. -/
inductive SortKind where
  | text
  | number
  /-- A number with a letter for its size behind it. -/
  | sized
  /-- Text in which numbers count as a whole. -/
  | version
  | month
  deriving DecidableEq, Repr

/-- How two keys of lines are compared. -/
structure SortOrder where
  kind : SortKind := .text
  reversed : Bool := false
  folded : Bool := false
  skipsBlanks : Bool := false
  dictionary : Bool := false
  deriving DecidableEq, Repr

def SortOrder.ofLetters (base : SortOrder) (letters : Text) : SortOrder :=
  { kind :=
      if letters.any ['n', 'g'].contains then .number
      else if letters.contains 'h' then .sized
      else if letters.contains 'V' then .version
      else if letters.contains 'M' then .month
      else base.kind
    reversed := base.reversed || letters.contains 'r'
    folded := base.folded || letters.contains 'f'
    skipsBlanks := base.skipsBlanks || letters.contains 'b'
    dictionary := base.dictionary || letters.contains 'd' }

/-- The place that a key starts or ends at: a field and a character in it, counted from one. -/
structure KeyPlace where
  field : Nat
  character : Option Nat
  letters : Text
  deriving DecidableEq, Repr

structure SortKey where
  start : KeyPlace
  stop : Option KeyPlace
  deriving DecidableEq, Repr

def keyPlace? (t : Text) : Option KeyPlace := do
  let digits := t.takeWhile Char.isDigit
  let field ← if digits = [] then none else natural? digits
  let rest := t.drop digits.length
  match rest with
  | '.' :: r =>
    let digits := r.takeWhile Char.isDigit
    return ⟨field, some (← natural? digits), r.drop digits.length⟩
  | rest => return ⟨field, none, rest⟩

def sortKey? (t : Text) : Option SortKey :=
  match Text.cutAt? ',' t with
  | some (a, b) => do return ⟨← keyPlace? a, some (← keyPlace? b)⟩
  | none => (keyPlace? t).map fun p => ⟨p, none⟩

/-- The fields of a line, each with what divides it from the one in front: blanks belong to the field
behind them, and a separator to none. -/
def sortFields (separator : Option Char) (line : Text) : List Text :=
  match separator with
  | some c => line.splitOn c
  | none =>
    let isGap (c : Char) : Bool := c = ' ' || c = '\t'
    (line.foldr (fun c (fields : List Text) =>
      match fields with
      | (d :: f) :: fs => if isGap d && !isGap c then [c] :: (d :: f) :: fs else (c :: d :: f) :: fs
      | [] :: fs => [c] :: fs
      | [] => [[c]]) [])

/-- The part of a line that a key takes. -/
def SortKey.part (separator : Option Char) (blanks : Bool) (k : SortKey) (line : Text) : Text :=
  let fields := sortFields separator line
  let gap := if separator.isSome then 1 else 0
  let before (n : Nat) : Nat := ((fields.take n).map fun f => f.length + gap).foldl (· + ·) 0
  let skipped (n : Nat) : Nat :=
    if blanks then ((line.drop n).takeWhile fun c => c = ' ' || c = '\t').length else 0
  let start := before (k.start.field - 1)
  let start := start + skipped start + (k.start.character.getD 1 - 1)
  let stop := match k.stop with
    | none => line.length
    | some p =>
      match p.character with
      | none | some 0 => before p.field - if p.field ≤ fields.length then gap else 0
      | some n => before (p.field - 1) + n
  (line.take stop).drop start

/-- A number at the front of a text, as a sign, whole digits and further digits. -/
def leadingNumber (t : Text) : Int × Text :=
  let t := t.dropWhile fun c => c = ' ' || c = '\t'
  let (isNegative, t) : Bool × Text := match t with
    | '-' :: r => (true, r)
    | t => (false, t)
  let whole := t.takeWhile Char.isDigit
  let further : Text := match t.drop whole.length with
    | '.' :: r => (r.takeWhile Char.isDigit).reverse.dropWhile (· = '0') |>.reverse
    | _ => []
  let n : Int := whole.foldl (fun n c => 10 * n + (c.toNat - 48)) 0
  (if isNegative then -n else n, if isNegative then '-' :: further else further)

/-- The order of two numbers at the front of texts. -/
def compareNumbers (a b : Text) : Ordering :=
  let scaled (size : Nat) (p : Int × Text) : Int :=
    let (isNegative, digits) : Bool × Text := match p.2 with
      | '-' :: r => (true, r)
      | r => (false, r)
    let fraction : Int := (digits ++ List.replicate (size - digits.length) '0').foldl
      (fun n c => 10 * n + (c.toNat - 48)) 0
    p.1 * 10 ^ size + if isNegative then -fraction else fraction
  let (p, q) := (leadingNumber a, leadingNumber b)
  let size := max p.2.length q.2.length
  compare (scaled size p) (scaled size q)

/-- The order of two numbers with letters for their sizes behind them. -/
def compareSized (a b : Text) : Ordering :=
  let size (t : Text) : Int :=
    let t := t.dropWhile fun c => c = ' ' || c = '\t'
    let isNegative := t.head? = some '-'
    let digits := (if isNegative then t.drop 1 else t).takeWhile fun c => c.isDigit || c = '.'
    let unit := (t.drop (digits.length + if isNegative then 1 else 0)).headD ' '
    let rank : Int := if unit = 'k' then 1 else ("KMGTPEZYRQ".toList.findIdx? (· = unit)).elim 0 fun n => n + 1
    if digits.all fun c => c = '0' || c = '.' then 0 else if isNegative then -1 - rank else 1 + rank
  (compare (size a) (size b)).then (compareNumbers a b)

/-- The order of two texts in which digits in a row count as a number; behind them letters come before other
characters, and a tilde before anything, even the end. -/
def compareVersions (fuel : Nat) (a b : Text) : Ordering :=
  match fuel with
  | 0 => .eq
  | fuel + 1 =>
    let rank (t : Text) : Int := match t with
      | [] => 0
      | c :: _ => if c.isDigit then 0 else if c = '~' then -1 else if c.isAlpha then c.toNat else c.toNat + 256
    let isPlain (t : Text) : Bool := t.head?.any (!Char.isDigit ·)
    if a = [] ∧ b = [] then .eq
    else if isPlain a || isPlain b then
      match compare (rank a) (rank b) with
      | .eq => compareVersions fuel (a.drop 1) (b.drop 1)
      | r => r
    else
      let (m, n) := (a.takeWhile Char.isDigit, b.takeWhile Char.isDigit)
      let value (t : Text) : Nat := t.foldl (fun n c => 10 * n + (c.toNat - 48)) 0
      (compare (value m) (value n)).then (compareVersions fuel (a.drop m.length) (b.drop n.length))

/-- The number of the month that a text starts with the name of, or zero. -/
def monthNumber (t : Text) : Nat :=
  let name := ((t.dropWhile fun c => c = ' ' || c = '\t').take 3).map Char.toUpper
  let names := ["JAN", "FEB", "MAR", "APR", "MAY", "JUN", "JUL", "AUG", "SEP", "OCT", "NOV", "DEC"].map String.toList
  (names.findIdx? (· = name)).elim 0 (· + 1)

def compareTexts (a b : Text) : Ordering := if a < b then .lt else if b < a then .gt else .eq

/-- The order of two keys. -/
def SortOrder.compare (o : SortOrder) (a b : Text) : Ordering :=
  let seen (t : Text) : Text :=
    let t := if o.skipsBlanks then t.dropWhile fun c => c = ' ' || c = '\t' else t
    let t := if o.dictionary then t.filter fun c => c.isAlphanum || c = ' ' || c = '\t' else t
    if o.folded then t.map Char.toUpper else t
  let r := match o.kind with
    | .text => compareTexts (seen a) (seen b)
    | .number => compareNumbers a b
    | .sized => compareSized a b
    | .version => compareVersions (a.length + b.length + 1) a b
    | .month => Ord.compare (monthNumber a) (monthNumber b)
  if o.reversed then r.swap else r

def sortForm : OptionForm :=
  { flags := "bcCdfghimMnrRsuVz".toList, valued := "koSTt".toList
    long := [("ignore-leading-blanks", 'b'), ("dictionary-order", 'd'), ("ignore-case", 'f'), ("numeric-sort", 'n'),
      ("reverse", 'r'), ("unique", 'u'), ("stable", 's'), ("key", 'k'), ("field-separator", 't'), ("output", 'o'),
      ("check", 'c'), ("merge", 'm'), ("general-numeric-sort", 'g'), ("human-numeric-sort", 'h'), ("version-sort", 'V'),
      ("month-sort", 'M'), ("zero-terminated", 'z')].map fun (n, c) => (n.toList, c) }

/-- How two lines compare under keys, the first of which that tells them apart decides. -/
def compareByKeys (separator : Option Char) (base : SortOrder) (keys : List SortKey) (a b : Text) : Ordering :=
  keys.foldl (fun r k =>
    let letters := k.start.letters ++ (k.stop.elim [] KeyPlace.letters)
    let order := if letters = [] then base else SortOrder.ofLetters {} letters
    r.then (order.compare (k.part separator order.skipsBlanks a) (k.part separator order.skipsBlanks b))) .eq

/-- Sorts the lines of files. -/
def sort (around : Surroundings) (called : Text) (arguments : List Text) : Effect :=
  withOptions called sortForm arguments (fun o =>
    let base := SortOrder.ofLetters {} (o.given.map Prod.fst)
    let separator := (o.value? 't').bind fun t => (Bytes.ofChars t).head?
    let written := o.values 'k'
    let keys := written.filterMap sortKey?
    let order (a b : Text) : Ordering :=
      if keys = [] then base.compare a b else compareByKeys separator base keys a b
    let isPlain := o.has 's' || o.has 'u'
    let whole (a b : Text) : Ordering :=
      let r := order a b
      if isPlain then r else r.then (if base.reversed then (compareTexts a b).swap else compareTexts a b)
    let (t, _) := gathered called (contents around o.operands)
    let lines := (Bytes.lines t).map Bytes.body
    let rest := usedInput o.operands
    let tab := (o.value? 't').getD ['\t']
    if (Bytes.ofChars tab).length ≠ 1 ∧ tab ≠ "\\0" then
      let why : Text := if tab = [] then "empty tab" else "multi-character tab " ++ quoted tab
      .complaint 2 (called ++ ": " ++ why)
    else if let some k := keys.zip written |>.find? fun (k, _) => k.start.field = 0 then
      .complaint 2 (called ++ ": field number is zero: invalid field specification " ++ quoted k.2)
    else
    match written.find? fun k => (sortKey? k).isNone with
    | some k => .complaint 2 (called ++ ": invalid number at field start: invalid count at start of '" ++ k ++ "'")
    | none =>
    match (contents around o.operands).find? (·.bytes.toOption.isNone) with
    | some c =>
      let why : Text := match c.bytes with
        | .error f => reason f
        | .ok _ => []
      .complaint 2 (called ++ ": " ++ (if why = "Is a directory" then "read failed" else "cannot read") ++ ": " ++
        shown c.path ++ ": " ++ why)
    | none =>
      if o.has 'c' ∨ o.has 'C' then
        let bad := (lines.zip (lines.drop 1)).findIdx? fun (a, b) =>
          whole a b = .gt || o.has 'u' && order a b = .eq
        match bad with
        | none => { rest }
        | some n =>
          let name : Text := o.operands.headD ['-']
          let message : Text := called ++ ": " ++ name ++ ":" ++ Text.ofNat (n + 2) ++ ": disorder: " ++
            lines.getD (n + 1) []
          if o.has 'C' then { status := 1, rest } else { Effect.complaint 1 message with rest }
      else
        let sorted := lines.mergeSort fun a b => whole a b ≠ .gt
        let kept := if o.has 'u' then
            (sorted.foldl (fun (out : List Text) l =>
              match out with
              | p :: _ => if order p l = .eq then out else l :: out
              | [] => [l]) []).reverse
          else sorted
        let bytes := Bytes.ofText (kept.flatMap (· ++ ['\n']))
        match o.value? 'o' with
        | none => { Effect.output bytes with rest }
        | some path =>
          match around.files.openFile path true false with
          | .error f => .complaint 2 (called ++ ": open failed: " ++ path ++ ": " ++ reason f)
          | .ok (channel, files) => { files := ((files.write channel bytes).toOption.map Prod.snd).or (some files), rest }) 2

def uniqForm : OptionForm :=
  { flags := "cdDiuz".toList, valued := "fsw".toList
    long := [("count", 'c'), ("repeated", 'd'), ("unique", 'u'), ("ignore-case", 'i'), ("skip-fields", 'f'),
      ("skip-chars", 's'), ("check-chars", 'w')].map fun (n, c) => (n.toList, c) }

/-- Neighbouring lines that are equal, each with how many there are. -/
def runsOf (key : Text → Text) (lines : List Text) : List (Nat × Text) :=
  lines.foldr (fun l (out : List (Nat × Text)) =>
    match out with
    | (n, m) :: rest => if key m = key l then (n + 1, l) :: rest else (1, l) :: (n, m) :: rest
    | [] => [(1, l)]) []

/-- Writes one line in the place of neighbours that are equal. -/
def uniq (around : Surroundings) (called : Text) (arguments : List Text) : Effect :=
  withOptions called uniqForm arguments fun o =>
    let number (c : Char) : Option Nat := (o.value? c).bind natural?
    let isGap (c : Char) : Bool := c = ' ' || c = '\t'
    let skipField (t : Text) : Text := (t.dropWhile isGap).dropWhile (!isGap ·)
    let key (t : Text) : Text :=
      let t := (List.range ((number 'f').getD 0)).foldl (fun t _ => skipField t) t
      let t := t.drop ((number 's').getD 0)
      let t := match number 'w' with
        | some n => t.take n
        | none => t
      if o.has 'i' then t.map Char.toUpper else t
    let (t, e) := gathered called (contents around (o.operands.take 1))
    let runs := runsOf key ((Bytes.lines t).map Bytes.body)
    let kept := runs.filter fun (n, _) => (!(o.has 'd' || o.has 'D') || n > 1) && (!o.has 'u' || n = 1)
    let all := (Bytes.lines t).map Bytes.body |>.splitBy fun a b => key a = key b
    let line (r : Nat × Text) : Text :=
      (if o.has 'c' then padLeft 7 (Text.ofNat r.1) ++ [' '] else []) ++ r.2 ++ ['\n']
    let bytes := Bytes.ofText (
      if o.has 'D' then (all.filter (·.length > 1)).flatten.flatMap (· ++ ['\n']) else kept.flatMap line)
    match o.operands.drop 1 with
    | _ :: excess :: _ => misuse called ("extra operand " ++ quoted excess)
    | [path] =>
      match around.files.openFile path true false with
      | .error f => .complaint 1 (called ++ ": " ++ path ++ ": " ++ reason f)
      | .ok (channel, files) => { files := ((files.write channel bytes).toOption.map Prod.snd).or (some files) }
    | [] => { e.andThen (.output bytes) with rest := usedInput o.operands }

/-- Writes what two sorted files have alone and in common, in columns. -/
def comm (around : Surroundings) (called : Text) (arguments : List Text) : Effect :=
  withOptions called { flags := "123z".toList } arguments fun o =>
    match o.operands.map fun p => (read around p).map fun t => (Bytes.lines t).map Bytes.body with
    | [.ok a, .ok b] =>
      let column (n : Nat) : Bool := !o.has (Char.ofNat (48 + n))
      let gap (n : Nat) : Text := ((List.range n).filter fun k => k > 0 && column k).map fun _ => '\t'
      let write (n : Nat) (l : Text) : Text := if column n then gap n ++ l ++ ['\n'] else []
      let rec merge (fuel : Nat) (a b : List Text) : Text :=
        match fuel, a, b with
        | 0, _, _ | _, [], [] => []
        | fuel + 1, x :: xs, [] => write 1 x ++ merge fuel xs []
        | fuel + 1, [], y :: ys => write 2 y ++ merge fuel [] ys
        | fuel + 1, x :: xs, y :: ys =>
          if x = y then write 3 x ++ merge fuel xs ys
          else if x < y then write 1 x ++ merge fuel xs (y :: ys)
          else write 2 y ++ merge fuel (x :: xs) ys
      .output (Bytes.ofText (merge (a.length + b.length + 1) a b))
    | [.error f, _] => unread called ⟨o.operands.headD [], .error f⟩ f
    | [_, .error f] => unread called ⟨o.operands.getD 1 [], .error f⟩ f
    | [] => misuse called "missing operand"
    | [_] => misuse called ("missing operand after '" ++ o.operands.headD [] ++ "'")
    | _ => misuse called ("extra operand '" ++ o.operands.getD 2 [] ++ "'")

end SchemaDrift.Tool
