import SchemaDrift.Text.Basic

namespace SchemaDrift.Toml

/-- How a table came into being, which decides how it may grow. -/
inductive TableKind where
  /-- Written as a value. -/
  | inline
  /-- Opened by a header of its own. -/
  | header
  /-- Only on the way to the table of a header. -/
  | implied
  /-- Only on the way to a dotted key. -/
  | dotted
  deriving DecidableEq, Repr

/-- A value of a TOML document. A float and a date or time are kept as they are written; the items
of `tables` are opened by headers one by one. -/
inductive Value where
  | text (t : Text)
  | integer (n : Int)
  | float (written : Text)
  | boolean (b : Bool)
  | dateTime (written : Text)
  | array (items : List Value)
  | tables (items : List Value)
  | table (kind : TableKind) (entries : List (Text × Value))
  deriving Inhabited

abbrev Entries := List (Text × Value)

/-- Puts a value in the place of the one that the key has. -/
def Entries.replace (es : Entries) (key : Text) (v : Value) : Entries :=
  es.map fun e => if e.1 = key then (key, v) else e

/-- Who goes down to a table: a header, or a dotted key, which must not enter tables that a header
has opened. -/
inductive Descent where
  | header
  | key
  deriving DecidableEq, Repr

def Descent.created : Descent → TableKind
  | .header => .implied
  | .key => .dotted

def Descent.enters : Descent → TableKind → Bool
  | _, .inline => false
  | .header, _ => true
  | .key, kind => kind ≠ .header

/-- Changes the table that a path of keys leads to, and creates what is missing on the way. Of
several tables under one key the last one is meant. -/
def changeAt (d : Descent) (change : TableKind → Entries → Option Entries) (kind : TableKind) (es : Entries) :
    List Text → Option Entries
  | [] => change kind es
  | key :: path =>
    match es.lookup key with
    | none => do
      let inner ← changeAt d change d.created [] path
      return es ++ [(key, .table d.created inner)]
    | some (.table kind inner) =>
      if d.enters kind then do
        return Entries.replace es key (.table kind (← changeAt d change kind inner path))
      else none
    | some (.tables items) =>
      match items.getLast? with
      | some (.table kind inner) => do
        let inner ← changeAt d change kind inner path
        return Entries.replace es key (.tables (items.dropLast ++ [.table kind inner]))
      | _ => none
    | some _ => none

/-- Adds a new key; only a table of dotted keys takes the last part of a longer one. -/
def insertKey (path : List Text) (key : Text) (v : Value) (kind : TableKind) (es : Entries) : Option Entries :=
  changeAt .key (fun kind es =>
    if (kind = .dotted) ≠ (path ≠ []) then none
    else if (es.lookup key).isSome then none
    else some (es ++ [(key, v)])) kind es path

/-- Opens a table by its header. It must be new, or only implied so far. -/
def openTable (path : List Text) (key : Text) (es : Entries) : Option Entries :=
  changeAt .header (fun _ es =>
    match es.lookup key with
    | none => some (es ++ [(key, .table .header [])])
    | some (.table .implied inner) => some (Entries.replace es key (.table .header inner))
    | some _ => none) .header es path

/-- Opens one more of several tables under one key. -/
def openItem (path : List Text) (key : Text) (es : Entries) : Option Entries :=
  changeAt .header (fun _ es =>
    match es.lookup key with
    | none => some (es ++ [(key, .tables [.table .header []])])
    | some (.tables items) => some (Entries.replace es key (.tables (items ++ [.table .header []])))
    | some _ => none) .header es path

end SchemaDrift.Toml
