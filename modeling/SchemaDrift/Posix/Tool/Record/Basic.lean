import SchemaDrift.Posix.Text.Bytes
import SchemaDrift.Posix.Text.Expression
import SchemaDrift.Posix.Text.Fraction

namespace SchemaDrift.Record

mutual

/-- What a script for records works out. -/
inductive Term where
  | number (x : Fraction)
  | text (t : Text)
  /-- Whether an expression covers a part of the record. -/
  | pattern (e : Expression)
  | value (s : Spot)
  /-- Gives a value to a spot; an operator takes its old value into account. -/
  | give (operator : Option Char) (s : Spot) (a : Term)
  /-- Counts a spot up or down; the term stands for what it holds then or held before. -/
  | count (s : Spot) (up before : Bool)
  | negative (a : Term)
  | positive (a : Term)
  | not (a : Term)
  | arithmetic (operator : Char) (a b : Term)
  | joined (a b : Term)
  /-- Whether the order of two values is one of these. -/
  | compared (orders : List Ordering) (a b : Term)
  | both (a b : Term)
  | either (a b : Term)
  | covered (a pattern : Term)
  | choose (c a b : Term)
  | member (indices : List Term) (list : Text)
  | call (name : Text) (arguments : List Term)
  /-- Reads the next line, of a file or of what the script runs over, into a spot or the record. -/
  | readLine (into : Option Spot) (file : Option Term)

/-- What can be given a value. -/
inductive Spot where
  | named (name : Text)
  | field (number : Term)
  | element (list : Text) (indices : List Term)

end

/-- Where something is written: to a file that is emptied first, to the end of one, or to a command. -/
inductive Outlet where
  | file (path : Term)
  | fileEnd (path : Term)
  | command (text : Term)

inductive Action where
  | skip
  | term (t : Term)
  | print (terms : List Term) (outlet : Option Outlet)
  | printFormat (terms : List Term) (outlet : Option Outlet)
  | seq (a b : Action)
  | choose (c : Term) (a b : Action)
  /-- Runs the body and then the step as long as a condition holds, which may be looked at behind the body only. -/
  | loop (bodyFirst : Bool) (c : Term) (step body : Action)
  | each (name list : Text) (body : Action)
  | delete (list : Text) (indices : List Term)
  | next
  | nextFile
  | exit (code : Option Term)
  | leave
  | again

/-- When the action of a rule is done. -/
inductive Condition where
  | first
  | last
  | always
  | holds (t : Term)
  | range (start stop : Term)

structure Rule where
  condition : Condition
  /-- A rule without an action writes the record. -/
  action : Option Action

/-- What a spot holds. -/
inductive Value where
  | nothing
  | number (x : Fraction)
  | text (t : Text)
  /-- Text from outside, which counts as a number where it looks like one. -/
  | given (t : Text)
  deriving DecidableEq, Repr

/-- How many binary digits numbers keep. -/
def precision : Nat := 53

def isBlank (c : Char) : Bool := c = ' ' || ('\t' ≤ c && c ≤ '\r')

/-- The number at the front of a text, and what stands behind it. -/
def frontNumber (t : Text) : Fraction × Text :=
  let t := t.dropWhile isBlank
  match Fraction.read? t with
  | some (x, rest) => (x.kept precision, rest)
  | none => (.ofInt 0, t)

/-- Whether a text is a number between blanks. -/
def looksNumeric (t : Text) : Bool :=
  let s := t.dropWhile isBlank
  match Fraction.read? s with
  | some (_, rest) => rest.all isBlank
  | none => false

/-- A number as text: whole ones with all their digits, others as a format tells. -/
def numberText (format : Fraction → Text) (x : Fraction) : Text :=
  if x.numerator % x.denominator = 0 ∧ x.truncated.natAbs < 2 ^ 63 then
    (if x.truncated < 0 then ['-'] else []) ++ Text.ofNat x.truncated.natAbs
  else format x

namespace Value

def toNumber : Value → Fraction
  | .nothing => .ofInt 0
  | .number x => x
  | .text t | .given t => (frontNumber t).1

def toText (format : Fraction → Text) : Value → Text
  | .nothing => []
  | .number x => numberText format x
  | .text t | .given t => t

/-- Whether a value counts as true. -/
def isTrue : Value → Bool
  | .nothing => false
  | .number x => x.numerator ≠ 0
  | .text t => t ≠ []
  | .given t => if looksNumeric t then (frontNumber t).1.numerator ≠ 0 else t ≠ []

/-- The number that a value is compared as, unless it is compared as text. -/
def comparable? : Value → Option Fraction
  | .nothing => some (.ofInt 0)
  | .number x => some x
  | .text _ => none
  | .given t => if looksNumeric t then some (frontNumber t).1 else none

/-- The order of two values: of their numbers if both have one, or else of their texts. -/
def compare (format : Fraction → Text) (a b : Value) : Ordering :=
  match a.comparable?, b.comparable? with
  | some x, some y => Fraction.compare x y
  | _, _ =>
    let (s, t) := (a.toText format, b.toText format)
    if s < t then .lt else if t < s then .gt else .eq

def ofBool (b : Bool) : Value := .number (.ofInt (if b then 1 else 0))

end Value
end SchemaDrift.Record
