import SchemaDrift.Text.Basic

namespace SchemaDrift

/-- A character of a pattern; a quoted one stands for itself. -/
structure PatternChar where
  char : Char
  quoted : Bool
  deriving DecidableEq, Repr

/-- What belongs to a set of characters. -/
inductive CharClass where
  | range (a b : Char)
  | named (name : Text)
  deriving DecidableEq, Repr

/-- A set of characters, or all others. -/
structure CharSet where
  negated : Bool
  classes : List CharClass
  deriving DecidableEq, Repr

namespace CharSet

/-- Whether a character is of the class of that name. -/
def isNamed (name : Text) (c : Char) : Bool :=
  let isPunctuation := '!' ≤ c && c ≤ '~' && !c.isAlphanum
  if name = "alpha" then c.isAlpha
  else if name = "digit" then c.isDigit
  else if name = "alnum" then c.isAlphanum
  else if name = "upper" then c.isUpper
  else if name = "lower" then c.isLower
  else if name = "space" then c = ' ' || ('\t' ≤ c && c ≤ '\r')
  else if name = "blank" then c = ' ' || c = '\t'
  else if name = "punct" then isPunctuation
  else if name = "xdigit" then c.isDigit || ('a' ≤ c && c ≤ 'f') || ('A' ≤ c && c ≤ 'F')
  else if name = "print" then ' ' ≤ c && c ≤ '~'
  else if name = "graph" then '!' ≤ c && c ≤ '~'
  else if name = "cntrl" then c < ' ' || c = '\x7f'
  else false

def classNames : List Text :=
  ["alpha", "digit", "alnum", "upper", "lower", "space", "blank", "punct", "xdigit", "print", "graph",
    "cntrl"].map String.toList

/-- Whether all classes in a set are known by their names. -/
def namesAreKnown (s : CharSet) : Bool :=
  s.classes.all fun k => match k with
    | .named name => classNames.contains name
    | .range .. => true

/-- Whether no range in a set ends in front of its start. -/
def rangesAscend (s : CharSet) : Bool :=
  s.classes.all fun k => match k with
    | .range a b => a ≤ b
    | .named _ => true

def contains (s : CharSet) (c : Char) : Bool :=
  s.negated ≠ s.classes.any fun k => match k with
    | .range a b => a ≤ c && c ≤ b
    | .named name => isNamed name c

def isMark (c : Char) (p : PatternChar) : Bool := p.char = c && !p.quoted

/-- The name of a class between colons, and what follows its closing bracket. -/
def className? (p : List PatternChar) : Option (Text × List PatternChar) :=
  let name := p.takeWhile fun a => a.char.isAlpha
  match p.drop name.length with
  | a :: b :: rest => if isMark ':' a && isMark ']' b then some (name.map PatternChar.char, rest) else none
  | _ => none

/-- The classes up to the closing bracket and what follows it; a closing bracket that comes first is a
member itself. -/
def classes? (fuel : Nat) (first : Bool) (p : List PatternChar) : Option (List CharClass × List PatternChar) :=
  match fuel with
  | 0 => none
  | fuel + 1 =>
    let behind (k : CharClass) (rest : List PatternChar) : Option (List CharClass × List PatternChar) :=
      (classes? fuel false rest).map fun (ks, rest) => (k :: ks, rest)
    match p with
    | [] => none
    | a :: rest =>
      if isMark ']' a && !first then some ([], rest)
      else
        match rest with
        | b :: c :: more =>
          if isMark '[' a && isMark ':' b then
            match className? (c :: more) with
            | some (name, rest) => behind (.named name) rest
            | none => behind (.range a.char a.char) rest
          else if isMark '-' b && !isMark ']' c then behind (.range a.char c.char) more
          else behind (.range a.char a.char) rest
        | rest => behind (.range a.char a.char) rest

/-- The set behind an opening bracket, and what follows it; `negations` are the signs that turn it round. -/
def read? (negations : List Char) (p : List PatternChar) : Option (CharSet × List PatternChar) :=
  let negated := p.head?.any fun a => negations.contains a.char && !a.quoted
  let p := if negated then p.drop 1 else p
  (classes? (p.length + 1) true p).map fun (classes, rest) => ({ negated, classes }, rest)

end CharSet
end SchemaDrift
