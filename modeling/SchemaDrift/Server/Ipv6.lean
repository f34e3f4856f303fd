import SchemaDrift.Server.Percent
import SchemaDrift.Text.Decimal

namespace SchemaDrift.Ipv6

/-- One group: one to four hexadecimal digits. -/
def group? (t : Text) : Option Nat :=
  if t.length = 0 ∨ 4 < t.length then none
  else (t.mapM Percent.hexValue?).map fun ds => ds.foldl (16 * · + ·) 0

/-- One of four decimal parts: up to 255, without leading zeros. -/
def part? (t : Text) : Option Nat :=
  match t with
  | [] => none
  | '0' :: _ :: _ => none
  | t => (t.mapM Decimal.digit?).bind fun ds =>
      let n := ds.foldl (10 * · + ·) 0
      if n ≤ 255 then some n else none

/-- The two groups that four decimal parts stand for. -/
def dotted? (t : Text) : Option (List Nat) := do
  let [a, b, c, d] ← (t.splitOn '.').mapM part? | none
  some [256 * a + b, 256 * c + d]

/-- Groups parted by colons; the last may be written as four decimal parts if `dotted`. -/
def groups? (dotted : Bool) (t : Text) : Option (List Nat) :=
  if t = [] then some []
  else do
    let pieces := t.splitOn ':'
    let front ← pieces.dropLast.mapM group?
    let last := pieces.getLastD []
    let back ← if dotted && last.contains '.' then dotted? last else (group? last).map ([·])
    some (front ++ back)

/-- The eight groups of an address; a double colon stands for at least one group of zero. -/
def address? (t : Text) : Option (List Nat) :=
  match Text.fromFirst? "::" t with
  | none => do
    let gs ← groups? true t
    if gs.length = 8 then some gs else none
  | some s => do
    let front ← groups? false (t.take (t.length - s.length))
    let back ← groups? true (s.drop 2)
    let known := front.length + back.length
    if known ≤ 7 then some (front ++ List.replicate (8 - known) 0 ++ back) else none

/-- The number of zeros at the front. -/
def zeros (gs : List Nat) : Nat := (gs.takeWhile (· = 0)).length

/-- Where the first longest run of zeros starts and how long it is. -/
def longestZeros (gs : List Nat) : Nat × Nat :=
  (List.range gs.length).foldl (fun best i =>
    let n := zeros (gs.drop i)
    if best.2 < n then (i, n) else best) (0, 0)

def joined (gs : List Nat) : Text := List.intercalate ":" (gs.map fun g => Nat.toDigits 16 g)

/-- The shortest writing of an address: its first longest run of at least two zeros is left out. -/
def text (gs : List Nat) : Text :=
  let (start, n) := longestZeros gs
  if 2 ≤ n then joined (gs.take start) ++ "::" ++ joined (gs.drop (start + n)) else joined gs

end SchemaDrift.Ipv6
