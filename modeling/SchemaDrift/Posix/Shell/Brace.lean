import SchemaDrift.Posix.Shell.Basic
import SchemaDrift.Text.Decimal

namespace SchemaDrift.Shell

/-- A part of a word as far as braces go: a character of its own, or a fragment that is left as it is. -/
inductive BracePart where
  | char (c : Char)
  | fragment (f : Fragment)

namespace BracePart

def ofWord (w : Word) : List BracePart :=
  w.flatMap fun f => match f with
    | .literal t false => t.map .char
    | f => [.fragment f]

/-- The word that parts make up; neighbouring characters become one fragment. -/
def toWord : List BracePart → Word
  | [] => []
  | .fragment f :: rest => f :: toWord rest
  | .char c :: rest =>
    match toWord rest with
    | .literal t false :: w => .literal (c :: t) false :: w
    | w => .literal [c] false :: w

def isChar (p : BracePart) (c : Char) : Bool := match p with | .char a => a = c | .fragment _ => false

end BracePart

/-- The alternatives between braces whose opening one is in front, what follows the closing one, and
`alternative` for what the last alternative holds so far, last part first. -/
def alternatives (depth : Nat) (alternative : List BracePart) :
    List BracePart → Option (List (List BracePart) × List BracePart)
  | [] => none
  | p :: rest =>
    if p.isChar '\x7d' then
      if depth = 0 then some ([alternative.reverse], rest) else alternatives (depth - 1) (p :: alternative) rest
    else if p.isChar ',' ∧ depth = 0 then
      (alternatives 0 [] rest).map fun (as, rest) => (alternative.reverse :: as, rest)
    else alternatives (if p.isChar '\x7b' then depth + 1 else depth) (p :: alternative) rest

/-- A whole number, which may be negative. -/
def wholeNumber? (t : Text) : Option Int :=
  match t with
  | '-' :: r => if r = [] then none else (Decimal.read (2 ^ 63) r).toOption.map fun n => -n
  | t => (Decimal.read (2 ^ 63) t).toOption.map fun n => (n : Int)

def ofInt (n : Int) : Text := if n < 0 then '-' :: Text.ofNat n.natAbs else Text.ofNat n.natAbs

/-- The items from one end of a range to the other in steps. -/
def rangeItems (a b : Int) (step : Nat) : List Int :=
  let size := (b - a).natAbs / step
  (List.range (size + 1)).map fun (n : Nat) => if a ≤ b then a + (n * step : Nat) else a - (n * step : Nat)

/-- The texts that a range between braces stands for. -/
def range? (t : Text) : Option (List Text) := do
  let (a, rest) ← Text.cutAt? '.' t
  let rest ← Text.dropStart? "." rest
  let (b, step) := match Text.cutAt? '.' rest with
    | some (b, step) => (b, (Text.dropStart? "." step).bind wholeNumber?)
    | none => (rest, some 1)
  let step := (← step).natAbs
  let step := if step = 0 then 1 else step
  match wholeNumber? a, wholeNumber? b with
  | some m, some n =>
    let isPadded (t : Text) : Bool := match t with
      | '0' :: _ :: _ | '-' :: '0' :: _ => true
      | _ => false
    let width := if isPadded a || isPadded b then max a.length b.length else 0
    return (rangeItems m n step).map fun k =>
      let digits := Text.ofNat k.natAbs
      if k < 0 then '-' :: List.replicate (width - 1 - digits.length) '0' ++ digits
      else List.replicate (width - digits.length) '0' ++ digits
  | _, _ =>
    match a, b with
    | [x], [y] =>
      if x.isAlpha && y.isAlpha then return (rangeItems x.toNat y.toNat step).map fun k => [Char.ofNat k.toNat]
      else none
    | _, _ => none

/-- The words that a word with braces stands for: one for each alternative or each item of a range. -/
def bracedParts (fuel : Nat) (front : List BracePart) (parts : List BracePart) : List (List BracePart) :=
  match fuel with
  | 0 => [front.reverse ++ parts]
  | fuel + 1 =>
    match parts with
    | [] => [front.reverse]
    | p :: rest =>
      if !p.isChar '\x7b' then bracedParts fuel (p :: front) rest
      else
        let spread (as : List (List BracePart)) (rest : List BracePart) : List (List BracePart) :=
          let ends := bracedParts fuel [] rest
          as.flatMap fun a => ends.map fun e => front.reverse ++ a ++ e
        match alternatives 0 [] rest with
        | some ([a], after) =>
          match (plainText? (BracePart.toWord a)).bind range? with
          | some ts => spread (ts.map (·.map .char)) after
          | none => bracedParts fuel (p :: front) rest
        | some (as, after) => spread (as.flatMap (bracedParts fuel [])) after
        | none => bracedParts fuel (p :: front) rest

/-- The words that a word stands for. -/
def spreadBraces (w : Word) : List Word :=
  let parts := BracePart.ofWord w
  if parts.any (·.isChar '\x7b') then (bracedParts (2 * parts.length + 2) [] parts).map BracePart.toWord else [w]

end SchemaDrift.Shell
