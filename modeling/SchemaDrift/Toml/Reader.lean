import SchemaDrift.Toml.Number

namespace SchemaDrift.Toml

/-- The text behind a comment, if one stands at the front; nothing if it holds what no comment may. -/
def afterComment? (t : Text) : Option Text :=
  match t with
  | '#' :: r =>
    let rest := r.dropWhile isVisible
    if rest = [] ∨ (afterBreak? rest).isSome then some rest else none
  | t => some t

/-- The text behind what may end a line: spaces, a comment, and a line break or the end. -/
def lineEnd? (t : Text) : Option Text := do
  let r ← afterComment? (skipSpaces t)
  if r = [] then some [] else afterBreak? r

/-- The text behind spaces, comments and line breaks. -/
def skipFree (fuel : Nat) (t : Text) : Option Text :=
  match fuel with
  | 0 => none
  | fuel + 1 => do
    let r ← afterComment? (skipSpaces t)
    match afterBreak? r with
    | some r => skipFree fuel r
    | none => some r

/-- The items of an array up to its closing bracket; a comma may follow the last one. -/
def arrayItems (item : Text → Option (Value × Text)) (fuel : Nat) (t : Text) : Option (List Value × Text) :=
  match fuel with
  | 0 => none
  | fuel + 1 => do
    match ← skipFree (t.length + 1) t with
    | ']' :: r => some ([], r)
    | t => do
      let (v, r) ← item t
      match ← skipFree (r.length + 1) r with
      | ',' :: r => do
        let (vs, r) ← arrayItems item fuel r
        return (v :: vs, r)
      | ']' :: r => some ([v], r)
      | _ => none

/-- The entries of an inline table behind those it has already, up to its closing brace. -/
def inlineEntries (item : Text → Option (Value × Text)) (fuel : Nat) (es : Entries) (t : Text) :
    Option (Entries × Text) :=
  match fuel with
  | 0 => none
  | fuel + 1 => do
    let (path, key, r) ← key? t
    let r ← Text.dropStart? "=" r
    let (v, r) ← item (skipSpaces r)
    let es ← insertKey path key v .inline es
    match skipSpaces r with
    | ',' :: r => inlineEntries item fuel es r
    | '\x7d' :: r => some (es, r)
    | _ => none

/-- The value at the front of a text that holds no other values. -/
def scalar? (t : Text) : Option (Value × Text) :=
  match t with
  | '"' :: _ | '\'' :: _ => (quoted? t).map fun (s, r) => (.text s, r)
  | t =>
    match Text.dropStart? "true" t with
    | some r => some (.boolean true, r)
    | none =>
      match Text.dropStart? "false" t with
      | some r => some (.boolean false, r)
      | none => number? t

/-- The value at the front of a text; `depth` bounds how many arrays and inline tables may be inside
each other. -/
def value? : Nat → Text → Option (Value × Text)
  | 0, t => scalar? t
  | depth + 1, t =>
    match t with
    | '[' :: r => (arrayItems (value? depth) (r.length + 1) r).map fun (vs, r) => (.array vs, r)
    | '\x7b' :: r =>
      match skipSpaces r with
      | '\x7d' :: r => some (.table .inline [], r)
      | r => (inlineEntries (value? depth) (r.length + 1) [] r).map fun (es, r) => (.table .inline es, r)
    | t => scalar? t

/-- A document under construction: its entries and the path of the table that keys go to. -/
structure Draft where
  entries : Entries := []
  path : List Text := []

namespace Draft

/-- Adds a key to the table at hand. -/
def insert (d : Draft) (path : List Text) (key : Text) (v : Value) : Option Draft := do
  let es ← changeAt .header (insertKey path key v) .header d.entries d.path
  return { d with entries := es }

/-- Takes in the header at the front of a text, behind its first bracket. -/
def header? (d : Draft) (t : Text) : Option (Draft × Text) :=
  match t with
  | '[' :: r => do
    let (path, key, r) ← key? r
    let r ← Text.dropStart? "]]" r
    return ({ entries := ← openItem path key d.entries, path := path ++ [key] }, r)
  | r => do
    let (path, key, r) ← key? r
    let r ← Text.dropStart? "]" r
    return ({ entries := ← openTable path key d.entries, path := path ++ [key] }, r)

/-- Takes in a key with its value. -/
def assignment? (d : Draft) (t : Text) : Option (Draft × Text) := do
  let (path, key, r) ← key? t
  let r ← Text.dropStart? "=" r
  let (v, r) ← value? (depthLimit - 1) (skipSpaces r)
  return (← d.insert path key v, r)

/-- Takes in the rest of a document, line by line. -/
def read (d : Draft) (fuel : Nat) (t : Text) : Option Draft :=
  match fuel with
  | 0 => none
  | fuel + 1 =>
    match skipSpaces t with
    | [] => some d
    | '#' :: r => do d.read fuel (← lineEnd? ('#' :: r))
    | '[' :: r => do
      let (d, r) ← d.header? r
      d.read fuel (← lineEnd? r)
    | t =>
      match afterBreak? t with
      | some r => d.read fuel r
      | none => do
        let (d, r) ← d.assignment? t
        d.read fuel (← lineEnd? r)

end Draft

/-- The entries of a document, in front of which a byte order mark may stand. -/
def read? (t : Text) : Option Entries :=
  let t := if t.head? = some '\uFEFF' then t.drop 1 else t
  (Draft.read {} (t.length + 1) t).map Draft.entries

end SchemaDrift.Toml
