import SchemaDrift.Posix.Tool.Lines
import SchemaDrift.Posix.Text.Digest

namespace SchemaDrift.Tool

/-- A name as it stands in a line of digests, and whether it had to be changed for that. -/
def lineName (path : Text) : Text × Bool :=
  (path.flatMap fun c => if c = '\n' then "\\n".toList else if c = '\\' then "\\\\".toList else [c],
    path.any fun c => c = '\n' || c = '\\')

/-- The digest and the path in a line that tells them. -/
def digestLine? (size : Nat) (line : Text) : Option (Text × Text) :=
  let digest := line.takeWhile fun c => c.isDigit || ('a' ≤ c.toLower && c.toLower ≤ 'f')
  if digest.length ≠ size then none
  else
    match line.drop size with
    | ' ' :: c :: path => if (c = ' ' || c = '*') && path ≠ [] then some (digest.map Char.toLower, path) else none
    | _ => none

/-- Compares files with the digests that are told of them. -/
def checkDigests (around : Surroundings) (called : Text) (digest : Text → Text) (size : Nat) (c : Content) (t : Text) : Effect :=
  let lines := (Bytes.lines t).filterMap fun l => digestLine? size (Bytes.body l)
  if lines = [] then .complaint 1 (called ++ ": " ++ shown c.path ++ ": no properly formatted checksum lines found")
  else
    let results := lines.map fun (expected, path) => (path, (read around path).map fun t => decide (digest t = expected))
    let told := results.foldl (fun (e : Effect) (path, r) =>
      e.andThen (match r with
        | .ok true => .line (path ++ ": OK")
        | .ok false => { Effect.line (path ++ ": FAILED") with status := 1 }
        | .error f =>
          (unread called ⟨path, .error f⟩ f).andThen (.line (path ++ ": FAILED open or read")))) {}
    let unreadable := (results.filter fun (_, r) => match r with | .error _ => true | .ok _ => false).length
    let wrong := (results.filter fun (_, r) => match r with | .ok false => true | _ => false).length
    let warning (n : Nat) (one several : String) : Effect :=
      if n = 0 then {}
      else .complaint 1 (called ++ ": WARNING: " ++ Text.ofNat n ++ ' ' :: (if n = 1 then one.toList else several.toList))
    (told.andThen (warning unreadable "listed file could not be read" "listed files could not be read")).andThen
      (warning wrong "computed checksum did NOT match" "computed checksums did NOT match")

/-- Writes the digests of files, or checks those that files tell. -/
def digests (name : String) (digest : List UInt8 → List UInt8) (around : Surroundings) (called : Text)
    (arguments : List Text) : Effect :=
  let form : OptionForm :=
    { flags := "bctwzτ".toList
      long := [("binary", 'b'), ("check", 'c'), ("text", 't'), ("zero", 'z'), ("tag", 'τ')].map fun (n, c) => (n.toList, c) }
  withOptions called form arguments fun o =>
    let of (t : Text) : Text := Digest.digits (digest (Bytes.ofText t))
    let ending : Char := if o.has 'z' then '\x00' else '\n'
    let line (c : Content) (t : Text) : Effect :=
      let (path, isChanged) := if o.has 'z' then (c.path, false) else lineName c.path
      let text : Text := if o.has 'τ' then name.toList ++ " (" ++ path ++ ") = " ++ of t
        else of t ++ (if o.has 'b' then " *" else "  ") ++ path
      .output (Utf8.encode ((if isChanged then ['\\'] else []) ++ text ++ [ending]))
    let e := forEach (contents around o.operands) (unread called ·)
      (if o.has 'c' then checkDigests around called of (of []).length else line)
    { e with rest := usedInput o.operands }

/-- Writes a sum of the bytes of each file, and how many there are. -/
def sums (sum : Text → Text) (around : Surroundings) (called : Text) (arguments : List Text) : Effect :=
  withOptions called { flags := "rs".toList } arguments fun o =>
    let e := forEach (contents around o.operands) (unread called ·) fun c t =>
      .line (sum t ++ if o.operands = [] then [] else ' ' :: c.path)
    { e with rest := usedInput o.operands }

def cksum (around : Surroundings) (called : Text) (arguments : List Text) : Effect :=
  sums (fun t => Text.ofNat (Digest.checksum (Bytes.ofText t)).toNat ++ ' ' :: Text.ofNat t.length) around called arguments

def sum (around : Surroundings) (called : Text) (arguments : List Text) : Effect :=
  sums (fun t =>
    let digits := Text.ofNat (Digest.turnedSum (Bytes.ofText t))
    List.replicate (5 - digits.length) '0' ++ digits ++ ' ' :: padLeft 5 (Text.ofNat ((t.length + 1023) / 1024)))
    around called arguments

end SchemaDrift.Tool
