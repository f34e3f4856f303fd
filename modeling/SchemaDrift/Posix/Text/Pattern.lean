import SchemaDrift.Posix.Text.CharSet

namespace SchemaDrift.Pattern

/-- Whether a pattern covers a whole text; `fuel` exceeds the length of both together. -/
def coversWithin (fuel : Nat) (p : List PatternChar) (t : Text) : Bool :=
  match fuel with
  | 0 => false
  | fuel + 1 =>
    match p, t with
    | [], t => t = []
    | ⟨'*', false⟩ :: p, t =>
      coversWithin fuel p t || (t ≠ [] && coversWithin fuel (⟨'*', false⟩ :: p) t.tail)
    | _ :: _, [] => false
    | ⟨'?', false⟩ :: p, _ :: t => coversWithin fuel p t
    | ⟨'[', false⟩ :: p, c :: t =>
      match CharSet.read? ['!', '^'] p with
      | some (s, rest) => s.contains c && coversWithin fuel rest t
      | none => c = '[' && coversWithin fuel p t
    | a :: p, c :: t => a.char = c && coversWithin fuel p t

/-- Whether a pattern covers a whole text. -/
def covers (p : List PatternChar) (t : Text) : Bool := coversWithin (p.length + t.length + 1) p t

/-- Whether a pattern may cover texts other than its own. -/
def isWild (p : List PatternChar) : Bool := p.any fun c => !c.quoted && ['*', '?', '['].contains c.char

/-- The length of the shortest or longest part of a text, at its front or at its end, that a pattern covers. -/
def coveredSize? (front longest : Bool) (p : List PatternChar) (t : Text) : Option Nat :=
  let sizes := List.range (t.length + 1)
  (if longest then sizes.reverse else sizes).find? fun n =>
    covers p (if front then t.take n else t.drop (t.length - n))

/-- A text without the part at the front or at the end that a pattern covers. -/
def withoutCovered (front longest : Bool) (p : List PatternChar) (t : Text) : Text :=
  match coveredSize? front longest p t with
  | some n => if front then t.drop n else t.take (t.length - n)
  | none => t

/-- A text with another one in the place of what a pattern covers, which is the longest part at the first
place where there is one; `everywhere` goes on behind it. -/
def replaceCovered (everywhere : Bool) (p : List PatternChar) (by_ : Text) : Nat → Text → Text
  | 0, t => t
  | _, [] => []
  | fuel + 1, c :: t =>
    match coveredSize? true true p (c :: t) with
    | some (n + 1) => by_ ++ if everywhere then replaceCovered true p by_ fuel (t.drop n) else t.drop n
    | _ => c :: replaceCovered everywhere p by_ fuel t

/-- The pattern that a text is when nothing in it is quoted; a backslash quotes what follows it. -/
def ofText : Text → List PatternChar
  | [] => []
  | '\\' :: c :: r => ⟨c, true⟩ :: ofText r
  | c :: r => ⟨c, false⟩ :: ofText r

end SchemaDrift.Pattern
