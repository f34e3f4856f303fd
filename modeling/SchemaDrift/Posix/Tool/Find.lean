import SchemaDrift.Posix.Tool.Condition
import SchemaDrift.Posix.Tool.Errand
import SchemaDrift.Posix.Tool.Report
import SchemaDrift.Posix.Text.Pattern

namespace SchemaDrift.Tool

/-- What is asked of the entries of a tree, and what is done with them. -/
inductive Filter where
  | name (pattern : Text) (folds : Bool)
  | path (pattern : Text)
  | kind (letter : Char)
  | isEmpty
  /-- The size in units, more or less than a number or equal to it. -/
  | size (order : Option Ordering) (n unit : Nat)
  | holds (operator : Text)
  | constant (holds : Bool)
  | print (ending : Text)
  | printf (format : Text)
  | delete
  /-- Has a command run for the entry, or one for all entries together. -/
  | run (words : List Text) (together : Bool)
  /-- Does not go down further. -/
  | prune
  | quit
  | negated (a : Filter)
  | both (a b : Filter)
  | either (a b : Filter)

/-- What a walk through the entries is to do. -/
structure Walk where
  filter : Filter := .print ['\n']
  least : Nat := 0
  most : Option Nat := none
  /-- What is inside a directory comes before it. -/
  insideFirst : Bool := false
  followsLinks : Bool := false

/-- What has come of a walk so far; the output has the last part first. -/
structure Walked where
  files : FileTree
  output : List (List UInt8) := []
  messages : List Text := []
  calls : List (List Text) := []
  /-- What commands are run with that are run once for all entries, last entry first. -/
  gathered : List Text := []
  pruned : Bool := false
  stopped : Bool := false
  status : Nat := 0

namespace Filter

/-- Whether a filter does more than to ask. -/
def acts : Filter → Bool
  | .print _ | .printf _ | .delete | .run _ _ => true
  | .negated a => a.acts
  | .both a b | .either a b => a.acts || b.acts
  | _ => false

abbrev Reading : Type := Except Text (Filter × List Text)

mutual

/-- Filters with `-o` between them. -/
def read (fuel : Nat) (ws : List Text) : Reading :=
  match fuel with
  | 0 => .ok (.constant true, ws)
  | fuel + 1 => do
    let (a, ws) ← readAll fuel ws
    match ws with
    | w :: rest =>
      if w = "-o" ∨ w = "-or" then do
        let (b, ws) ← read fuel rest
        return (.either a b, ws)
      else return (a, ws)
    | [] => return (a, ws)

/-- Filters one behind the other. -/
def readAll (fuel : Nat) (ws : List Text) : Reading :=
  match fuel with
  | 0 => .ok (.constant true, ws)
  | fuel + 1 => do
    let (a, ws) ← readOne fuel ws
    match ws with
    | [] => return (a, [])
    | w :: rest =>
      if w = "-o" ∨ w = "-or" ∨ w = ")" then return (a, ws)
      else do
        let (b, ws) ← readAll fuel (if w = "-a" ∨ w = "-and" then rest else ws)
        return (.both a b, ws)

def readOne (fuel : Nat) (ws : List Text) : Reading :=
  match fuel with
  | 0 => .ok (.constant true, ws)
  | fuel + 1 =>
    match ws with
    | [] => .ok (.constant true, [])
    | w :: rest =>
      let valued (f : Text → Except Text Filter) : Reading :=
        match rest with
        | v :: rest => (f v).map (·, rest)
        | [] => .error ("missing argument to \x60" ++ w ++ "'")
      if w = "!" ∨ w = "-not" then (readOne fuel rest).map fun (a, ws) => (.negated a, ws)
      else if w = "(" then
        match read fuel rest with
        | .ok (a, c :: ws) => if c = ")" then .ok (a, ws) else .error "invalid expression; you have used a binary operator '-o' with nothing before it."
        | .ok (_, []) => .error "invalid expression; I was expecting to find a ')' somewhere but did not see one."
        | .error f => .error f
      else if w = "-name" then valued fun v => .ok (.name v false)
      else if w = "-iname" then valued fun v => .ok (.name v true)
      else if w = "-path" ∨ w = "-wholename" then valued fun v => .ok (.path v)
      else if w = "-type" then valued fun v => match v with
        | [c] => if ['f', 'd', 'l', 'c', 'b', 'p', 's'].contains c then .ok (.kind c) else .error ("Unknown argument to -type: " ++ v)
        | v => .error ("Unknown argument to -type: " ++ v)
      else if w = "-empty" then .ok (.isEmpty, rest)
      else if w = "-size" then valued fun v =>
        let (order, r) : Option Ordering × Text := match v with
          | '+' :: r => (some .gt, r)
          | '-' :: r => (some .lt, r)
          | r => (none, r)
        let ds := r.takeWhile Char.isDigit
        let unit : Nat := match r.drop ds.length with
          | ['c'] => 1
          | ['w'] => 2
          | ['k'] => 1024
          | ['M'] => 1024 * 1024
          | _ => 512
        .ok (.size order (ds.foldl (fun n c => 10 * n + (c.toNat - 48)) 0) unit)
      else if w = "-readable" ∨ w = "-writable" ∨ w = "-executable" then
        .ok (.holds (if w = "-executable" then "-x" else "-r"), rest)
      else if w = "-true" ∨ w = "-false" then .ok (.constant (w = "-true"), rest)
      else if w = "-print" then .ok (.print ['\n'], rest)
      else if w = "-print0" then .ok (.print ['\x00'], rest)
      else if w = "-printf" then valued fun v => .ok (.printf v)
      else if w = "-delete" then .ok (.delete, rest)
      else if w = "-prune" then .ok (.prune, rest)
      else if w = "-quit" then .ok (.quit, rest)
      else if w = "-depth" then .ok (.constant true, rest)
      else if w = "-maxdepth" ∨ w = "-mindepth" then valued fun v =>
        if v ≠ [] ∧ v.all Char.isDigit then .ok (.constant true)
        else .error ("Expected a positive decimal integer argument to " ++ w ++ ", but got " ++ quoted v)
      else if w = "-exec" ∨ w = "-ok" then
        let words := rest.takeWhile fun (a : Text) => a ≠ ";" && a ≠ "+"
        match rest.drop words.length with
        | e :: rest => .ok (.run words (e = "+"), rest)
        | [] => .error ("missing argument to \x60" ++ w ++ "'")
      else if w.head? = some '-' then .error ("unknown predicate \x60" ++ w ++ "'")
      else .error ("paths must precede expression: \x60" ++ w ++ "'")

end

/-- Fills a format with what is known of an entry. -/
def described (files : FileTree) (root path : Text) (depth : Nat) (l : Location) : Text → Text
  | [] => []
  | '%' :: c :: r =>
    let part : Text := match c with
      | 'p' => path
      | 'f' => pathPart true path
      | 'h' => pathPart false path
      | 'P' => (path.drop root.length).dropWhile (· = '/')
      | 'd' => Text.ofNat depth
      | 's' => Text.ofNat ((files.entry? l).elim 0 sizeOf)
      | 'm' => ((files.entry? l).map permissions).elim [] Prod.fst
      | 'y' => match files.entry? l with
        | some .directory => ['d']
        | some (.link _) => ['l']
        | _ => ['f']
      | c => [c]
    part ++ described files root path depth l r
  | c :: r => c :: described files root path depth l r

/-- Whether an entry passes, and what has come of that. -/
def passes (root path : Text) (depth : Nat) (l : Location) (s : Walked) : Filter → Bool × Walked
  | .name pattern folds =>
    let fold (t : Text) : Text := if folds then t.map Char.toLower else t
    (Pattern.covers (Pattern.ofText (fold pattern)) (fold (pathPart true path)), s)
  | .path pattern => (Pattern.covers (Pattern.ofText pattern) path, s)
  | .kind letter =>
    (match s.files.entry? l with
      | some .directory => letter = 'd'
      | some (.link _) => letter = 'l'
      | some (.device _) => letter = 'c'
      | _ => letter = 'f', s)
  | .isEmpty =>
    (match s.files.entry? l with
      | some (.file _ bytes _) => bytes.isEmpty
      | some .directory => (s.files.namesIn l).isEmpty
      | _ => false, s)
  | .size order n unit =>
    let size := (((s.files.entry? l).elim 0 sizeOf) + unit - 1) / unit
    (match order with
      | some o => compare size n = o
      | none => size = n, s)
  | .holds operator => (fileHolds s.files operator path, s)
  | .constant b => (b, s)
  | .print ending => (true, { s with output := Utf8.encode (path ++ ending) :: s.output })
  | .printf format =>
    let t := described s.files root path depth l format
    (true, { s with output := Escape.bytes (formatForm none) t :: s.output })
  | .delete =>
    if s.files.isDirectory l ∧ s.files.namesIn l ≠ [] then
      (false, { s with messages := ("cannot delete " ++ quoted path ++ ": Directory not empty") :: s.messages, status := 1 })
    else (true, { s with files := s.files.remove l })
  | .run words together =>
    if together then (true, { s with gathered := path :: s.gathered })
    else
      let word (a : Text) : Text := Pattern.replaceCovered true ("\x7b\x7d".toList.map (⟨·, true⟩)) path (a.length + 1) a
      (true, { s with calls := s.calls ++ [words.map word] })
  | .prune => (true, { s with pruned := true })
  | .quit => (true, { s with stopped := true })
  | .negated a =>
    let (b, s) := passes root path depth l s a
    (!b, s)
  | .both a b =>
    let (x, s) := passes root path depth l s a
    if x ∧ !s.stopped then passes root path depth l s b else (x, s)
  | .either a b =>
    let (x, s) := passes root path depth l s a
    if x ∨ s.stopped then (x, s) else passes root path depth l s b

/-- The words of the command that is run once for all entries. -/
def togetherWords? : Filter → Option (List Text)
  | .run words true => some words
  | .negated a => a.togetherWords?
  | .both a b | .either a b => a.togetherWords?.or b.togetherWords?
  | _ => none

end Filter

/-- Goes through an entry and all that is below it. -/
def Walk.through (w : Walk) (root : Text) (fuel depth : Nat) (path : Text) (l : Location) (s : Walked) : Walked :=
  match fuel with
  | 0 => s
  | fuel + 1 =>
    if s.stopped then s
    else
      let visit (s : Walked) : Walked :=
        if depth < w.least ∨ s.stopped then s else (w.filter.passes root path depth l { s with pruned := false }).2
      let s := if w.insideFirst then s else visit { s with pruned := false }
      let goesDown := s.files.isDirectory l && (w.most.all fun m => decide (depth < m)) && !(s.pruned && !w.insideFirst)
      let s := if goesDown then
          (s.files.namesIn l).foldl (fun s n => w.through root fuel (depth + 1) (below path n) (l ++ [n]) s) s
        else s
      if w.insideFirst then visit s else s

/-- Looks for entries in trees and does something with those that are found. -/
def find (around : Surroundings) (called : Text) (arguments : List Text) : Plan :=
  let isRoot (a : Text) : Bool := a.head? ≠ some '-' && a ≠ "(" && a ≠ "!"
  let arguments := arguments.dropWhile fun (a : Text) => a = "-H" || a = "-P" || a = "-L"
  let roots := arguments.takeWhile isRoot
  let ws := arguments.drop roots.length
  let failed (message : Text) : Plan := .ofEffect (.complaint 1 (called ++ ": " ++ message))
  let limit (name : String) : Option Nat := ((ws.dropWhile (· ≠ name.toList))[1]?).bind natural?
  match Filter.read (2 * ws.length + 2) ws with
  | .error message => failed message
  | .ok (_, w :: _) => failed (if w = ")" then "invalid expression; you have too many ')'" else "paths must precede expression: \x60" ++ w ++ "'")
  | .ok (filter, []) =>
    let walk : Walk :=
      { filter := if ws = [] then .print ['\n'] else if filter.acts then filter else .both filter (.print ['\n'])
        least := (limit "-mindepth").getD 0
        most := limit "-maxdepth"
        insideFirst := ws.any fun (a : Text) => a = "-depth" || a = "-delete" }
    let walked := (if roots = [] then [['.']] else roots).foldl (fun (s : Walked) root =>
      match s.files.locateEntry root with
      | .ok l => walk.through root 64 0 root l s
      | .error f => { s with messages := (quoted root ++ ": " ++ reason f) :: s.messages, status := 1 })
      { files := around.files }
    let messages : List (Nat × List UInt8) := walked.messages.reverse.map fun m =>
      (2, Utf8.encode (called ++ ": " ++ m ++ "\n"))
    let together := match walk.filter.togetherWords?, walked.gathered with
      | some words, p :: ps => [words.flatMap fun (a : Text) => if a = "\x7b\x7d" then (p :: ps).reverse else [a]]
      | _, _ => []
    { effect :=
        { status := walked.status
          writes := messages ++ [(1, walked.output.reverse.flatten)]
          files := some walked.files }
      errands := (walked.calls ++ together).map fun words =>
        { words, environment := around.environment, refusal := called ++ ": " ++ quoted (words.headD []) ++ ": " }
      status := fun codes => if together ≠ [] ∧ codes.getLast?.any (· ≠ 0) then 1 else walked.status }

end SchemaDrift.Tool
