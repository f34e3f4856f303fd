import SchemaDrift.Posix.Shell.Field
import SchemaDrift.Posix.Shell.Giving
import SchemaDrift.Posix.Tool.Format

namespace SchemaDrift.Shell

/-- What a parameter stands for. -/
inductive Denoted where
  | one (value : Option Text)
  /-- Several values, which are one text between quotes if they are joined. -/
  | several (values : List Text) (joined : Bool)
  deriving DecidableEq, Repr

namespace Denoted

/-- Whether there is a value; `evenEmpty` tells that an empty one is none. -/
def isGiven (evenEmpty : Bool) : Denoted → Bool
  | .one v => v.any fun t => !evenEmpty || t ≠ []
  | .several [t] _ => !evenEmpty || t ≠ []
  | .several ts _ => ts ≠ []

def map (f : Text → Text) : Denoted → Denoted
  | .one v => .one (v.map f)
  | .several ts joined => .several (ts.map f) joined

/-- What a word comes to where the parameter stands. Several values are fields of their own where a word
may come to several fields, which `apart` tells. -/
def glyphs (apart quoted : Bool) (joiner : Text) : Denoted → List Glyph
  | .one v => (if quoted then [.stay] else []) ++ Glyph.ofText quoted (!quoted) (v.getD [])
  | .several ts joined =>
    let single (joiner : Text) : List Glyph := .stay :: Glyph.ofText quoted (!quoted) (List.intercalate joiner ts)
    if !apart then single joiner
    else if !quoted then List.intercalate [.cut] (ts.map (Glyph.ofText false true))
    else if joined then single joiner
    else List.intercalate [.cut] (ts.map fun t => .stay :: Glyph.ofText true false t)

end Denoted

namespace State

/-- What the whole of a parameter stands for. -/
def denoted (s : State) (name : Text) : Denoted :=
  match name with
  | ['@'] => .several s.arguments false
  | ['*'] => .several s.arguments true
  | _ => .one (s.value? name)

/-- The elements of a list, or the value of a plain variable. -/
def elements (s : State) (name : Text) : List (Text × Text) :=
  match s.bindings.lookup name with
  | some v => v.ordered
  | none => (s.ownList name).mapIdx fun n t => (Text.ofNat n, t)

/-- The home directory of a user. -/
def homeOf? (s : State) (user : Text) : Option Text :=
  if user = [] then s.value? "HOME" else if user = "root" then some "/root" else none

/-- A word whose tilde at the front is replaced by a home directory. -/
def withHome (s : State) (w : Word) : Word :=
  match w with
  | .literal ('~' :: t) false :: rest =>
    let user := t.takeWhile (· ≠ '/')
    if user.length = t.length ∧ rest ≠ [] then w
    else
      match s.homeOf? user with
      | some home => .literal home true :: .literal (t.drop user.length) false :: rest
      | none => w
  | w => w

/-- A text of an assignment with the tildes at its front and behind its colons replaced by home directories. -/
def withHomes (s : State) (fuel : Nat) (isStart : Bool) (t : Text) : Word :=
  match fuel with
  | 0 => [.literal t false]
  | fuel + 1 =>
    match t with
    | [] => []
    | '~' :: r =>
      let user := r.takeWhile fun c => c ≠ '/' && c ≠ ':'
      match if isStart then s.homeOf? user else none with
      | some home => .literal home true :: withHomes s fuel false (r.drop user.length)
      | none => .literal ['~'] false :: withHomes s fuel false r
    | c :: r =>
      let plain := r.takeWhile fun x => x ≠ '~'
      .literal (c :: plain) false :: withHomes s fuel ((c :: plain).getLast? = some ':') (r.drop plain.length)

/-- The value of an assignment with its tildes replaced. -/
def valueWithHomes (s : State) (w : Word) : Word :=
  match w with
  | [.literal t false] => if t.contains '~' then withHomes s (t.length + 1) true t else w
  | w => s.withHome w

/-- A part of a text by its start and its size, which count from the end if they are negative. -/
def sliceOf {α : Type} (xs : List α) (start : Int) (size : Option Int) : Option (List α) :=
  let length : Int := xs.length
  let start := if start < 0 then length + start else start
  if start < 0 then some []
  else
    let rest := xs.drop start.toNat
    match size with
    | none => some rest
    | some n =>
      if n < 0 then
        if length + n < start then none else some (rest.take (length + n - start).toNat)
      else some (rest.take n.toNat)

/-- A text in upper or lower case, or only its first letter. -/
def casedText (upper all : Bool) (t : Text) : Text :=
  let f := if upper then Char.toUpper else Char.toLower
  if all then t.map f
  else
    match t with
    | c :: r => f c :: r
    | [] => []

/-- A text with another one in the place of what a pattern covers at one of its ends or anywhere. -/
def replacedText (everywhere : Bool) (anchor : Anchor) (p : List PatternChar) (by_ t : Text) : Text :=
  match anchor with
  | .anywhere => Pattern.replaceCovered everywhere p by_ (t.length + 1) t
  | .front =>
    match Pattern.coveredSize? true true p t with
    | some n => by_ ++ t.drop n
    | none => t
  | .back =>
    match Pattern.coveredSize? false true p t with
    | some n => t.take (t.length - n) ++ by_
    | none => t

/-- A text in single quotes that a script can read again. -/
def requotedText (t : Text) : Text :=
  if t.any fun c => c.toNat < 32 then Tool.requoted (some .bash) t
  else '\'' :: t.flatMap (fun c => if c = '\'' then "'\\''".toList else [c]) ++ ['\'']

end State

namespace Act

/-- Refuses a parameter without a value where the script wants that. -/
def checkGiven (name : Text) (d : Denoted) : Act Unit := do
  let s ← get
  let isExempt : Bool := match d with
    | .several .. => true
    | .one v => v.isSome
  if s.letters.contains 'u' && !isExempt then
    if s.isPlain then giveUp (name ++ ": parameter not set")
    else giveUp ((if name.all Char.isDigit then '$' :: name else name) ++ ": unbound variable") 1

/-- The names that fields stand for: the paths that they cover as patterns, or themselves. -/
def namesOf (fields : List (List PatternChar)) : Act (List Text) := do
  let s ← get
  return fields.flatMap fun f =>
    let text := f.map PatternChar.char
    if s.letters.contains 'f' || !Pattern.isWild f then [text]
    else
      match pathsCovered s.files s.isPlain f with
      | [] => if s.settings.contains "nullglob".toList then [] else [text]
      | names => names

/-- The field separator applied to what a word has come to. -/
def divided (gs : List Glyph) : Act (List Text) := do
  namesOf (fieldsOf (← get).divider gs)

end Act
end SchemaDrift.Shell
