import SchemaDrift.Posix.Shell.Dialect
import SchemaDrift.Text.Basic

namespace SchemaDrift.Shell

/-- What follows a branch that has been run. -/
inductive AfterBranch where
  | leave
  /-- The next branch, whatever its patterns are. -/
  | next
  /-- The next branch with a pattern for the subject. -/
  | search
  deriving DecidableEq, Repr

/-- At which end of a value a pattern has to lie. -/
inductive Anchor where
  | front
  | back
  | anywhere
  deriving DecidableEq, Repr

mutual

/-- A piece of a word; what is quoted stays as it is. -/
inductive Fragment where
  | literal (t : Text) (quoted : Bool)
  | parameter (name : Text) (part : Subscript) (use : ParameterUse) (quoted : Bool)
  /-- What a command writes. -/
  | captured (c : Command) (quoted : Bool)
  /-- The number that an expression comes to. -/
  | calculated (expression : List Fragment) (quoted : Bool)

/-- Which elements of a list are meant. -/
inductive Subscript where
  | whole
  /-- All of them, as one text if they are joined. -/
  | all (joined : Bool)
  | element (index : List Fragment)

/-- What stands in the place of a parameter. -/
inductive ParameterUse where
  | value
  | length
  /-- Its value, or a word if it has none; `evenEmpty` tells that an empty value is none. -/
  | valueOr (evenEmpty : Bool) (word : List Fragment)
  /-- A word if it has a value, and nothing otherwise. -/
  | wordIf (evenEmpty : Bool) (word : List Fragment)
  /-- Its value; if it has none it gets a word as its value. -/
  | assigned (evenEmpty : Bool) (word : List Fragment)
  /-- Its value; if it has none the script ends with a word as the reason. -/
  | demanded (evenEmpty : Bool) (word : List Fragment)
  /-- Its value without the shortest or longest part at its front or its end that a pattern covers. -/
  | valueWithout (front longest : Bool) (pattern : List Fragment)
  /-- A part of its value, by the numbers that expressions come to. -/
  | slice (start : List Fragment) (size : Option (List Fragment))
  /-- Its value with a word in the place of what a pattern covers, everywhere or once. -/
  | replaced (everywhere : Bool) (anchor : Anchor) (pattern word : List Fragment)
  /-- Its value in upper or lower case, the first letter or all of them. -/
  | cased (upper all : Bool)
  /-- The value of the parameter that it names. -/
  | indirect
  /-- The indices of its elements. -/
  | indices
  /-- Its value in a form that a script can read again. -/
  | requoted
  /-- No use that there is; the text as it is written. -/
  | unknown (written : Text)

/-- Where the inputs and outputs with these numbers lead. -/
inductive Redirection where
  /-- To where another one leads, which a word names; a minus sign closes it. -/
  | copy (source : Nat) (reads : Bool) (target : List Fragment)
  | toFile (source : Nat) (emptied : Bool) (path : List Fragment)
  /-- Both outputs to a file. -/
  | bothToFile (emptied : Bool) (path : List Fragment)
  | fromFile (source : Nat) (path : List Fragment)
  | readWrite (source : Nat) (path : List Fragment)
  | fromText (source : Nat) (body : List Fragment)

/-- Gives a value to a name, to an element of a list, or a whole list of values; `adds` tells that what
is there already stays in front. -/
inductive Assignment where
  | one (name : Text) (index : Option (List Fragment)) (adds : Bool) (value : List Fragment)
  | many (name : Text) (adds : Bool) (values : List (Option (List Fragment) × List Fragment))

/-- What stands between double brackets. -/
inductive Condition where
  | unary (operator : Text) (word : List Fragment)
  | binary (operator : Text) (a b : List Fragment)
  | both (a b : Condition)
  | either (a b : Condition)
  | negated (a : Condition)

inductive Command where
  | skip
  /-- Runs a program; `line` is the number of the line it stands on. -/
  | simple (line : Nat) (assignments : List Assignment) (words : List (List Fragment))
      (redirections : List Redirection)
  | seq (first second : Command)
  | andThen (first second : Command)
  | orElse (first second : Command)
  | negated (body : Command)
  /-- What the first one writes the second one reads. -/
  | pipe (first second : Command)
  /-- Runs on its own while the script goes on. -/
  | background (body : Command)
  | subshell (body : Command)
  | redirected (line : Nat) (body : Command) (redirections : List Redirection)
  /-- Runs the body once for each item; without items, for each argument of the script. -/
  | each (line : Nat) (name : Text) (items : Option (List (List Fragment))) (body : Command)
  /-- Runs the body as long as an expression is not zero. -/
  | count (line : Nat) (start condition step : List Fragment) (body : Command)
  | choose (condition thenDo elseDo : Command)
  | whileDo (condition body : Command)
  /-- Runs the body of the first branch that has a pattern for the subject. -/
  | branch (line : Nat) (subject : List Fragment) (branches : List (List (List Fragment) × Command × AfterBranch))
  /-- Fails if an expression comes to zero. -/
  | calculate (line : Nat) (expression : List Fragment)
  | test (line : Nat) (condition : Condition)
  /-- Gives a command a name. -/
  | define (name : Text) (body : Command)

end

/-- A word of a script. -/
abbrev Word := List Fragment

instance : Inhabited Command := ⟨.skip⟩

/-- The commands that read from each other, first one first. -/
def Command.stages : Command → List Command
  | .pipe a b => a :: b.stages
  | c => [c]

/-- The text of a word that nothing is replaced in. -/
def plainText? : Word → Option Text
  | [] => some []
  | .literal t _ :: rest => (plainText? rest).map (t ++ ·)
  | _ :: _ => none

end SchemaDrift.Shell
