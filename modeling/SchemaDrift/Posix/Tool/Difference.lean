import SchemaDrift.Posix.Tool.Entries

namespace SchemaDrift

/-- A place where two lists of lines differ: how many lines stand in front of it in either, and the lines
that stand there. -/
structure Difference where
  before : Nat
  after : Nat
  removed : List Text
  added : List Text
  deriving DecidableEq, Repr

namespace Difference

/-- For the ends of a list, the longest it is the same in with a list that starts with `x`, when that is known
for the rest of the other list. -/
def lengthsWith (x : Text) : List Text → List Nat → List Nat
  | y :: ys, below :: more =>
    let right := lengthsWith x ys more
    (if x = y then more.headD 0 + 1 else max below (right.headD 0)) :: right
  | _, _ => [0]

/-- How many lines the ends of two lists can have in common, by the lines in front of either end. -/
def lengths (ys : List Text) : List Text → List (List Nat)
  | [] => [List.replicate (ys.length + 1) 0]
  | x :: xs =>
    let below := lengths ys xs
    lengthsWith x ys (below.headD []) :: below

/-- Which of two lists each line is in, where a line of both is told once, in the order of both. -/
def sides (fuel : Nat) (table : List (List Nat)) : List Text → List Text → List (Bool × Bool)
  | [], ys => ys.map fun _ => (false, true)
  | xs, [] => xs.map fun _ => (true, false)
  | x :: xs, y :: ys =>
    match fuel with
    | 0 => []
    | fuel + 1 =>
      let right (rows : List (List Nat)) : List (List Nat) := rows.map (·.drop 1)
      if x = y then (true, true) :: sides fuel (right (table.drop 1)) xs ys
      else if ((table.headD []).getD 1 0) ≤ ((table.getD 1 []).headD 0) then
        (true, false) :: sides fuel (table.drop 1) xs (y :: ys)
      else (false, true) :: sides fuel (right table) (x :: xs) ys

/-- The places between lines of both lists, the lists taken so far being so long. -/
def gathered (before after : Nat) (xs ys : List Text) (pending : Option Difference) : List (Bool × Bool) → List Difference
  | [] => pending.toList
  | (true, true) :: r =>
    pending.toList ++ gathered (before + 1) (after + 1) (xs.drop 1) (ys.drop 1) none r
  | (inFirst, _) :: r =>
    let d := pending.getD ⟨before, after, [], []⟩
    if inFirst then
      gathered (before + 1) after (xs.drop 1) ys (some { d with removed := d.removed ++ xs.take 1 }) r
    else gathered before (after + 1) xs (ys.drop 1) (some { d with added := d.added ++ ys.take 1 }) r

/-- Where two lists of lines differ that count as the same if their keys are; what they have in common is as
long as it can be. -/
def between (key : Text → Text) (xs ys : List Text) : List Difference :=
  let ks := xs.map key
  let ls := ys.map key
  let same := ((ks.zip ls).takeWhile fun (a, b) => a = b).length
  let ks := ks.drop same
  let ls := ls.drop same
  gathered same same (xs.drop same) (ys.drop same) none (sides (ks.length + ls.length) (lengths ls ks) ks ls)

/-- A line behind a mark, and a note if no line break ends it. -/
def marked (mark line : Text) : Text :=
  mark ++ line ++ (if line.getLast? = some '\n' then [] else "\n\\ No newline at end of file\n".toList)

/-- The numbers of so many lines behind others. -/
def range (before count : Nat) : Text :=
  if count ≤ 1 then Text.ofNat (before + count)
  else Text.ofNat (before + 1) ++ ',' :: Text.ofNat (before + count)

/-- A difference as the change that makes the second file of the first. -/
def normal (d : Difference) : Text :=
  let letter : Char := if d.added = [] then 'd' else if d.removed = [] then 'a' else 'c'
  range d.before d.removed.length ++ letter :: range d.after d.added.length ++ '\n' ::
    d.removed.flatMap (marked "< ") ++ (if letter = 'c' then "---\n".toList else []) ++ d.added.flatMap (marked "> ")

/-- Differences in groups: between those of one there are not more than so many lines. -/
def grouped (gap : Nat) : List Difference → List (List Difference)
  | [] => []
  | d :: ds =>
    match grouped gap ds with
    | (e :: es) :: rest =>
      if e.before ≤ d.before + d.removed.length + gap then (d :: e :: es) :: rest else [d] :: (e :: es) :: rest
    | rest => [d] :: rest

/-- The lines from one difference on, with those of both files up to a place in the first. -/
def unifiedLines (xs : List Text) (start stop : Nat) : List Difference → Text
  | [] => ((xs.drop start).take (stop - start)).flatMap (marked " ")
  | d :: ds =>
    ((xs.drop start).take (d.before - start)).flatMap (marked " ") ++ d.removed.flatMap (marked "-") ++
      d.added.flatMap (marked "+") ++ unifiedLines xs (d.before + d.removed.length) stop ds

/-- A group of differences with so many lines of the first file around it. -/
def unified (context : Nat) (xs : List Text) (ds : List Difference) : Text :=
  match ds.head?, ds.getLast? with
  | some first, some last =>
    let start := first.before - context
    let stop := min xs.length (last.before + last.removed.length + context)
    let removed := (ds.flatMap Difference.removed).length
    let added := (ds.flatMap Difference.added).length
    let part (before count : Nat) : Text :=
      if count = 1 then Text.ofNat (before + 1)
      else Text.ofNat (if count = 0 then before else before + 1) ++ ',' :: Text.ofNat count
    let kept := stop - start - removed
    "@@ -" ++ part start (stop - start) ++ " +" ++ part (first.after - (first.before - start)) (kept + added) ++ " @@\n" ++
      unifiedLines xs start stop ds
  | _, _ => []

end Difference

namespace Tool

def diffForm : OptionForm :=
  { flags := "abBdiNqrstuw".toList, valued := "UL".toList
    long := [("text", 'a'), ("ignore-space-change", 'b'), ("ignore-blank-lines", 'B'), ("minimal", 'd'), ("ignore-case", 'i'),
      ("new-file", 'N'), ("brief", 'q'), ("recursive", 'r'), ("report-identical-files", 's'), ("unified", 'U'),
      ("ignore-all-space", 'w'), ("label", 'L')].map fun (n, c) => (n.toList, c) }

/-- What is compared of a line. -/
def lineKey (o : Options) (line : Text) : Text :=
  let line := if o.has 'i' then line.map Char.toLower else line
  if o.has 'w' then line.filter (!isBlankByte ·)
  else if o.has 'b' then
    List.intercalate " " ((if line.head?.any isBlankByte then [[]] else []) ++ wordsOf line)
  else line

/-- Tells where two files differ. -/
def diff (around : Surroundings) (called : Text) (arguments : List Text) : Effect :=
  let trouble (message : Text) : Effect := .complaint 2 (called ++ ": " ++ message)
  let misused (message : Text) : Effect :=
    trouble (message ++ "\n" ++ called ++ ": Try '" ++ called ++ " --help' for more information.")
  match Options.read diffForm arguments with
  | .error message => misused message
  | .ok o =>
    let isDirectory (path : Text) : Bool := path ≠ "-" && around.files.find? path = some .directory
    match o.operands with
    | [] => misused ("missing operand after '" ++ called ++ "'")
    | [a] => misused ("missing operand after " ++ quoted a)
    | _ :: _ :: c :: _ => misused ("extra operand " ++ quoted c)
    | [a, b] =>
      let first := if isDirectory a && !isDirectory b then below a (pathPart true b) else a
      let second := if isDirectory b && !isDirectory a then below b (pathPart true a) else b
      let content (path : Text) : Except HostFault Text := match read around path with
        | .error .noSuchFile => if o.has 'N' then .ok [] else .error .noSuchFile
        | r => r
      let e : Effect := match content first, content second with
        | .error f, .error g =>
          (trouble (first ++ ": " ++ reason f)).andThen (trouble (second ++ ": " ++ reason g))
        | .error f, _ => trouble (first ++ ": " ++ reason f)
        | _, .error f => trouble (second ++ ": " ++ reason f)
        | .ok s, .ok t =>
          let xs := Bytes.lines s
          let ys := Bytes.lines t
          let isBinary : Bool := !o.has 'a' && (s.contains '\x00' || t.contains '\x00')
          let ds := Difference.between (lineKey o) xs ys
          let isBlank (l : Text) : Bool := Bytes.body l = []
          let ds := if o.has 'B' then ds.filter fun d => !(d.removed.all isBlank && d.added.all isBlank) else ds
          let differ : Text := first ++ " and " ++ second ++ " differ"
          if s = t ∨ (ds = [] ∧ !isBinary) then
            if o.has 's' then .line ("Files " ++ first ++ " and " ++ second ++ " are identical") else {}
          else if o.has 'q' then { Effect.line ("Files " ++ differ) with status := 1 }
          else if isBinary then { Effect.line ("Binary files " ++ differ) with status := 2 }
          else if o.has 'u' ∨ o.has 'U' then
            let context := ((o.value? 'U').bind natural?).getD 3
            let title (k : Nat) (path : Text) : Text :=
              (o.values 'L').getD k (path ++ "\t1970-01-01 00:00:00.000000000 +0000")
            let text := "--- " ++ Bytes.ofChars (title 0 first) ++ "\n+++ " ++ Bytes.ofChars (title 1 second) ++ '\n' ::
              (Difference.grouped (2 * context) ds).flatMap (Difference.unified context xs)
            { Effect.output (Bytes.ofText text) with status := 1 }
          else { Effect.output (Bytes.ofText (ds.flatMap Difference.normal)) with status := 1 }
      { e with rest := usedInput o.operands }

end Tool
end SchemaDrift
