import SchemaDrift.Server.Port
import SchemaDrift.Toml.Reader

namespace SchemaDrift.Toml

/-- A value that a setting can have. -/
inductive Setting where
  | text (t : Text)
  | number (p : Port)
  | boolean (b : Bool)
  | texts (ts : List Text)
  deriving DecidableEq, Repr

def Setting.value : Setting → Value
  | .text t => .text t
  | .number p => .integer p.val
  | .boolean b => .boolean b
  | .texts ts => .array (ts.map .text)

abbrev Settings := List (Text × Setting)

def Settings.entries (es : Settings) : Entries := es.map fun (key, v) => (key, v.value)

/-- A document of settings: those in front of the first header, and the tables in their order. -/
structure Layout where
  front : Settings := []
  tables : List (Text × Settings)

namespace Layout

/-- The entries that the headers open. -/
def headed (tables : List (Text × Settings)) : Entries := tables.map fun (name, es) => (name, .table .header es.entries)

def entries (l : Layout) : Entries := l.front.entries ++ headed l.tables

/-- No table has two values for one key, and none of the tables is opened twice or named as a setting in front is. -/
structure IsDistinct (l : Layout) : Prop where
  names : (l.front.map Prod.fst ++ l.tables.map Prod.fst).Nodup
  keys : ∀ table ∈ l.tables, (table.2.map Prod.fst).Nodup

end Layout

/-- Hexadecimal digits in either case that write a number, with any zeros in front. -/
inductive HexWriting : Nat → Text → Prop
  | nil : HexWriting 0 []
  | snoc {n d : Nat} {w : Text} {c : Char} (hw : HexWriting n w) (hd : d < 16)
      (hc : c = Nat.digitChar d ∨ c = (Nat.digitChar d).toUpper) : HexWriting (16 * n + d) (w ++ [c])

/-- How a character may stand between quotation marks: as itself, by a sign of its own, or by its number. Marks,
backslashes and what is not visible cannot stand as themselves. -/
inductive CharWriting : Char → Text → Prop
  | plain {c : Char} (hc : isVisible c) (hmark : c ≠ '"') (hback : c ≠ '\\') : CharWriting c [c]
  | sign {c e : Char} (he : (e, c) ∈ [('b', '\x08'), ('t', '\t'), ('n', '\n'), ('f', '\x0c'), ('r', '\r'), ('"', '"'),
      ('\\', '\\')]) : CharWriting c ['\\', e]
  | short {c : Char} {w : Text} (hw : HexWriting c.toNat w) (hlength : w.length = 4) : CharWriting c ('\\' :: 'u' :: w)
  | long {c : Char} {w : Text} (hw : HexWriting c.toNat w) (hlength : w.length = 8) : CharWriting c ('\\' :: 'U' :: w)

/-- What may stand between the quotation marks of a text. -/
inductive TextWriting : Text → Text → Prop
  | nil : TextWriting [] []
  | cons {c : Char} {t v w : Text} (hc : CharWriting c v) (ht : TextWriting t w) : TextWriting (c :: t) (v ++ w)

inductive KeyWriting : Text → Text → Prop
  | bare {key : Text} (hne : key ≠ []) (hkey : ∀ c ∈ key, isBareKeyChar c) : KeyWriting key key
  | quoted {key w : Text} (hw : TextWriting key w) : KeyWriting key ('"' :: (w ++ ['"']))

/-- Spaces and tabs. -/
def IsGap (w : Text) : Prop := ∀ c ∈ w, isSpace c

inductive IsComment : Text → Prop
  | absent : IsComment []
  | present {w : Text} (hw : ∀ c ∈ w, isVisible c) : IsComment ('#' :: w)

def IsBreak (w : Text) : Prop := w = ['\n'] ∨ w = ['\r', '\n']

/-- What may stand behind the last sign of a line. -/
inductive IsLineEnd : Text → Prop
  | mk {g c b : Text} (hg : IsGap g) (hc : IsComment c) (hb : IsBreak b) : IsLineEnd (g ++ (c ++ b))

/-- What may stand between the signs of a list: lines without any sign, and a gap. -/
inductive IsFree : Text → Prop
  | gap {g : Text} (hg : IsGap g) : IsFree g
  | line {e f : Text} (he : IsLineEnd e) (hf : IsFree f) : IsFree (e ++ f)

/-- The rest of a list behind its opening bracket. The last comma may stand in front of the closing one. -/
inductive ItemsWriting : List Text → Text → Prop
  | nil {f : Text} (hf : IsFree f) : ItemsWriting [] (f ++ [']'])
  | last {t f w g : Text} (hf : IsFree f) (hw : TextWriting t w) (hg : IsFree g) :
      ItemsWriting [t] (f ++ '"' :: (w ++ '"' :: (g ++ [']'])))
  | cons {t : Text} {ts : List Text} {f w g v : Text} (hf : IsFree f) (hw : TextWriting t w) (hg : IsFree g)
      (hts : ItemsWriting ts v) : ItemsWriting (t :: ts) (f ++ '"' :: (w ++ '"' :: (g ++ ',' :: v)))

inductive ValueWriting : Setting → Text → Prop
  | text {t w : Text} (hw : TextWriting t w) : ValueWriting (.text t) ('"' :: (w ++ ['"']))
  | number (p : Port) : ValueWriting (.number p) p.text
  | yes : ValueWriting (.boolean true) "true"
  | no : ValueWriting (.boolean false) "false"
  | texts {ts : List Text} {w : Text} (hw : ItemsWriting ts w) : ValueWriting (.texts ts) ('[' :: w)

/-- The lines of settings, and lines without any. -/
inductive SettingsWriting : Settings → Text → Prop
  | nil : SettingsWriting [] []
  | blank {es : Settings} {e w : Text} (he : IsLineEnd e) (hw : SettingsWriting es w) : SettingsWriting es (e ++ w)
  | entry {key : Text} {x : Setting} {es : Settings} {g k a b v e w : Text} (hg : IsGap g) (hk : KeyWriting key k)
      (ha : IsGap a) (hb : IsGap b) (hv : ValueWriting x v) (he : IsLineEnd e) (hw : SettingsWriting es w) :
      SettingsWriting ((key, x) :: es) (g ++ (k ++ (a ++ '=' :: (b ++ (v ++ e)))) ++ w)

/-- Tables behind their headers. -/
inductive TablesWriting : List (Text × Settings) → Text → Prop
  | nil : TablesWriting [] []
  | cons {name : Text} {es : Settings} {tables : List (Text × Settings)} {g a n b e v w : Text} (hg : IsGap g)
      (ha : IsGap a) (hn : KeyWriting name n) (hb : IsGap b) (he : IsLineEnd e) (hv : SettingsWriting es v)
      (hw : TablesWriting tables w) :
      TablesWriting ((name, es) :: tables) (g ++ '[' :: (a ++ (n ++ (b ++ ']' :: e))) ++ (v ++ w))

/-- The ways to write a document; behind its last line there may be a gap and a comment. -/
inductive Layout.IsWritten (l : Layout) : Text → Prop
  | mk {v w g c : Text} (hv : SettingsWriting l.front v) (hw : TablesWriting l.tables w) (hg : IsGap g)
      (hc : IsComment c) : l.IsWritten (v ++ w ++ (g ++ c))

/-! ### Everything can be written -/

theorem isGap_nil : IsGap [] := fun _ hc => absurd hc List.not_mem_nil

theorem isGap_space : IsGap [' '] := fun _ hc => List.eq_of_mem_singleton hc ▸ rfl

theorem isLineEnd_feed : IsLineEnd ['\n'] := .mk isGap_nil .absent (.inl rfl)

/-- A number has digits in as many places as it needs, and in more. -/
theorem exists_hexWriting (k : Nat) {n : Nat} (h : n < 16 ^ k) : ∃ w, HexWriting n w ∧ w.length = k := by
  induction k generalizing n with
  | zero =>
    obtain rfl : n = 0 := by omega
    exact ⟨[], .nil, rfl⟩
  | succ k ih =>
    obtain ⟨w, hw, hlength⟩ := ih (Nat.div_lt_of_lt_mul (by rwa [Nat.pow_succ, Nat.mul_comm] at h))
    have hsnoc := HexWriting.snoc hw (Nat.mod_lt n (by omega)) (.inl rfl)
    rw [Nat.div_add_mod] at hsnoc
    exact ⟨_, hsnoc, by rw [List.length_append, hlength, List.length_singleton]⟩

theorem exists_charWriting (c : Char) : ∃ w, CharWriting c w := by
  have hbound : c.toNat < 2 ^ 32 := c.val.toNat_lt
  obtain ⟨w, hw, hlength⟩ := exists_hexWriting 8 hbound
  exact ⟨_, .long hw hlength⟩

/-- A text that needs no escapes stands as itself. -/
theorem textWriting_self {t : Text} (h : t.all fun c => isVisible c && c != '"' && c != '\\') : TextWriting t t := by
  induction t with
  | nil => exact .nil
  | cons c t ih =>
    rw [List.all_cons, Bool.and_eq_true, Bool.and_eq_true, Bool.and_eq_true, bne_iff_ne, bne_iff_ne] at h
    obtain ⟨⟨⟨hvisible, hmark⟩, hback⟩, ht⟩ := h
    exact .cons (.plain hvisible hmark hback) (ih ht)

theorem exists_textWriting (t : Text) : ∃ w, TextWriting t w := by
  induction t with
  | nil => exact ⟨[], .nil⟩
  | cons c t ih =>
    obtain ⟨v, hv⟩ := exists_charWriting c
    obtain ⟨w, hw⟩ := ih
    exact ⟨_, .cons hv hw⟩

theorem exists_keyWriting (key : Text) : ∃ w, KeyWriting key w := by
  obtain ⟨w, hw⟩ := exists_textWriting key
  exact ⟨_, .quoted hw⟩

theorem exists_itemsWriting (ts : List Text) : ∃ w, ItemsWriting ts w := by
  have hfree : IsFree [] := .gap isGap_nil
  induction ts with
  | nil => exact ⟨_, .nil hfree⟩
  | cons t ts ih =>
    obtain ⟨w, hw⟩ := exists_textWriting t
    obtain ⟨v, hv⟩ := ih
    exact ⟨_, .cons hfree hw hfree hv⟩

theorem exists_valueWriting (x : Setting) : ∃ w, ValueWriting x w := by
  cases x with
  | text t =>
    obtain ⟨w, hw⟩ := exists_textWriting t
    exact ⟨_, .text hw⟩
  | number p => exact ⟨_, .number p⟩
  | boolean b =>
    cases b with
    | false => exact ⟨_, .no⟩
    | true => exact ⟨_, .yes⟩
  | texts ts =>
    obtain ⟨w, hw⟩ := exists_itemsWriting ts
    exact ⟨_, .texts hw⟩

theorem exists_settingsWriting (es : Settings) : ∃ w, SettingsWriting es w := by
  induction es with
  | nil => exact ⟨[], .nil⟩
  | cons e es ih =>
    obtain ⟨k, hk⟩ := exists_keyWriting e.1
    obtain ⟨v, hv⟩ := exists_valueWriting e.2
    obtain ⟨w, hw⟩ := ih
    exact ⟨_, .entry isGap_nil hk isGap_nil isGap_nil hv isLineEnd_feed hw⟩

theorem exists_tablesWriting (tables : List (Text × Settings)) : ∃ w, TablesWriting tables w := by
  induction tables with
  | nil => exact ⟨[], .nil⟩
  | cons s tables ih =>
    obtain ⟨n, hn⟩ := exists_keyWriting s.1
    obtain ⟨v, hv⟩ := exists_settingsWriting s.2
    obtain ⟨w, hw⟩ := ih
    exact ⟨_, .cons isGap_nil isGap_nil hn isGap_nil isLineEnd_feed hv hw⟩

theorem Layout.exists_isWritten (l : Layout) : ∃ w, l.IsWritten w := by
  obtain ⟨v, hv⟩ := exists_settingsWriting l.front
  obtain ⟨w, hw⟩ := exists_tablesWriting l.tables
  exact ⟨_, .mk hv hw isGap_nil .absent⟩

end SchemaDrift.Toml
