import SchemaDrift.Host.Storage
import SchemaDrift.Posix.Text.Pattern

namespace SchemaDrift.Shell

/-- A part of what a word comes to. -/
inductive Glyph where
  /-- A character; `divides` tells that words are divided there if it is one that divides them. -/
  | char (c : PatternChar) (divides : Bool)
  /-- There is a field here even if it is empty. -/
  | stay
  /-- A field ends here. -/
  | cut
  deriving DecidableEq, Repr

namespace Glyph

def ofText (quoted divides : Bool) (t : Text) : List Glyph := t.map fun c => .char ⟨c, quoted⟩ divides

/-- The characters without the places where they fall apart; what is cut is joined by a text. -/
def whole (joiner : Text) (gs : List Glyph) : List PatternChar :=
  gs.flatMap fun g => match g with
    | .char c _ => [c]
    | .stay => []
    | .cut => joiner.map (⟨·, true⟩)

end Glyph

/-- Fields while they are divided: those that are complete, last one first, and the one at hand with its
last character first. -/
structure Dividing where
  fields : List (List PatternChar) := []
  current : List PatternChar := []
  started : Bool := false
  /-- Behind the end of a field: whether a mark may follow that belongs to it. -/
  behind : Option Bool := none

namespace Dividing

def finish (d : Dividing) (behind : Option Bool) : Dividing :=
  { fields := d.current.reverse :: d.fields, behind }

/-- Goes on by one part. Blanks that divide words count once however many they are, and together with a
mark that they stand around; each other mark ends a field. -/
def step (divider : Text) (d : Dividing) : Glyph → Dividing
  | .stay => { d with started := true, behind := none }
  | .cut => if d.started then d.finish none else { d with behind := none }
  | .char c divides =>
    if divides ∧ divider.contains c.char then
      let isBlank := [' ', '\t', '\n'].contains c.char
      match d.behind with
      | some mayFollow =>
        if isBlank then d else if mayFollow then { d with behind := some false } else d.finish (some false)
      | none => if isBlank ∧ !d.started then d else d.finish (some isBlank)
    else { d with current := c :: d.current, started := true, behind := none }

end Dividing

/-- The fields that parts make up. -/
def fieldsOf (divider : Text) (gs : List Glyph) : List (List PatternChar) :=
  let d := gs.foldl (Dividing.step divider) {}
  (if d.started then d.finish none else d).fields.reverse

/-- The paths that a pattern covers, given those that its first parts cover. -/
def pathsOnto (files : FileTree) (dots : Bool) (first : Bool) (fronts : List Text) :
    List (List PatternChar) → List Text
  | [] => fronts
  | part :: rest =>
    let slash : Text := if first then [] else ['/']
    let text := part.map PatternChar.char
    let next (front : Text) : List Text :=
      if Pattern.isWild part then
        let directory : Text := if first then ['.'] else if front = [] then ['/'] else front
        let names := match files.locate directory with
          | .ok l => if files.isDirectory l then files.namesIn l else []
          | .error _ => []
        let names := if dots then ['.'] :: ['.', '.'] :: names else names
        let isShown (n : Text) : Bool := n.head? ≠ some '.' || text.head? = some '.'
        (names.filter fun n => isShown n && Pattern.covers part n).map fun n => front ++ slash ++ n
      else [front ++ slash ++ text]
    pathsOnto files dots false (fronts.flatMap next) rest

/-- The paths that a pattern covers, in their order; `dots` tells that the entries for a directory itself and
the one above it count. -/
def pathsCovered (files : FileTree) (dots : Bool) (p : List PatternChar) : List Text :=
  let parts := p.splitOnP fun c => c.char = '/'
  let isThere (path : Text) : Bool := (files.locateEntry path).toOption.isSome
  ((pathsOnto files dots true [[]] parts).filter isThere).mergeSort Text.inOrder

end SchemaDrift.Shell
