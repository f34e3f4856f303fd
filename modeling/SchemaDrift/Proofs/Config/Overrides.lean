import SchemaDrift.Config.Reader
import SchemaDrift.Proofs.Host.Path
import SchemaDrift.Proofs.Toml.Documents

namespace SchemaDrift

open Toml

/-- A table of a configuration file. -/
inductive Config.Part where
  | server
  | dump
  | log
  deriving DecidableEq, Repr

def Config.Part.name : Config.Part → Text
  | .server => "mysql"
  | .dump => "dump"
  | .log => "logging"

theorem Config.Part.name_injective {p q : Config.Part} (h : p.name = q.name) : p = q := by
  cases p with
  | server =>
    cases q with
    | server => rfl
    | dump | log => exact absurd h (by decide)
  | dump =>
    cases q with
    | dump => rfl
    | server | log => exact absurd h (by decide)
  | log =>
    cases q with
    | log => rfl
    | server | dump => exact absurd h (by decide)

/-- The fields of a configuration that are spelled out, with their values. -/
structure Overrides where
  host : Option Text := none
  port : Option Port := none
  user : Option Text := none
  password : Option Text := none
  properties : Option (List Text) := none
  program : Option Text := none
  raw : Option Bool := none
  level : Option Text := none
  file : Option Text := none
  format : Option Text := none
  console : Option Bool := none
  deriving DecidableEq, Repr

namespace Overrides

/-- The configuration with these fields, and with what is usual for the others. -/
def config (o : Overrides) : Config :=
  let usual : Config := {}
  { server := {
      host := o.host.getD usual.server.host
      port := o.port.getD usual.server.port
      user := o.user.getD usual.server.user
      password := o.password.getD usual.server.password
      properties := o.properties.getD usual.server.properties }
    dump := {
      program := o.program.getD usual.dump.program
      raw := o.raw.getD usual.dump.raw }
    log := {
      level := o.level.getD usual.log.level
      file := (o.file.map some).getD usual.log.file
      format := o.format.getD usual.log.format
      console := o.console.getD usual.log.console } }

/-- The fields of a table, each with what it is spelled out with. -/
def fields (o : Overrides) : Config.Part → List (Text × Option Setting)
  | .server => [("host", o.host.map .text), ("port", o.port.map .number), ("user", o.user.map .text),
      ("password", o.password.map .text), ("properties", o.properties.map .texts)]
  | .dump => [("mysqldump_path", o.program.map .text), ("raw", o.raw.map .boolean)]
  | .log => [("level", o.level.map .text), ("file", o.file.map .text), ("format", o.format.map .text),
      ("console", o.console.map .boolean)]

/-- Whether a document spells out these fields and no others of the tables, in whatever order and whatever else it
has: a field has a value exactly when it stands with that value in its table. -/
structure SpelledBy (o : Overrides) (l : Layout) : Prop where
  front : ∀ part : Config.Part, part.name ∉ l.front.map Prod.fst
  fields : ∀ part field y, (field, y) ∈ o.fields part →
    ∀ x, (∃ es, (part.name, es) ∈ l.tables ∧ (field, x) ∈ es) ↔ y = some x

/-- The fields of a table that are spelled out. -/
def spelled (o : Overrides) (part : Config.Part) : Settings :=
  (o.fields part).filterMap fun f => f.2.map fun x => (f.1, x)

variable {o : Overrides} {l : Layout} {part : Config.Part} {field : Text} {x : Setting}

theorem mem_spelled_iff : (field, x) ∈ o.spelled part ↔ (field, some x) ∈ o.fields part := by
  rw [spelled, List.mem_filterMap]
  constructor
  · rintro ⟨⟨name, y⟩, hf, hx⟩
    obtain ⟨z, rfl, hz⟩ := Option.map_eq_some_iff.mp hx
    cases hz
    exact hf
  · exact fun hf => ⟨(field, some x), hf, rfl⟩

theorem nodup_fields (o : Overrides) (part : Config.Part) : ((o.fields part).map Prod.fst).Nodup := by
  cases part <;> exact of_decide_eq_true rfl

/-- The tables may stand in any order and among others, and their fields in any order and among other keys. A table
without fields may be left out. -/
theorem spelledBy_of_perm (parts : List Config.Part) (order extra : Config.Part → Settings)
    (others : List (Text × Settings)) (hfront : ∀ part : Config.Part, part.name ∉ l.front.map Prod.fst)
    (htables : l.tables.Perm (parts.map (fun part => (part.name, order part)) ++ others))
    (hparts : ∀ part, part ∉ parts → order part = [])
    (hothers : ∀ part : Config.Part, part.name ∉ others.map Prod.fst)
    (horder : ∀ part, (order part).Perm (o.spelled part ++ extra part))
    (hextra : ∀ part, ∀ f ∈ o.fields part, f.1 ∉ (extra part).map Prod.fst) : o.SpelledBy l := by
  refine ⟨hfront, fun part field y hy x => ?_⟩
  have htable : (∃ es, (part.name, es) ∈ l.tables ∧ (field, x) ∈ es) ↔ (field, x) ∈ order part := by
    simp only [htables.mem_iff, List.mem_append, List.mem_map]
    constructor
    · rintro ⟨es, ⟨part', -, h⟩ | hother, hx⟩
      · obtain ⟨hname, rfl⟩ := Prod.mk.inj h
        rwa [← Config.Part.name_injective hname]
      · exact absurd (List.mem_map_of_mem hother) (hothers part)
    · intro hx
      by_cases hpart : part ∈ parts
      · exact ⟨order part, .inl ⟨part, hpart, rfl⟩, hx⟩
      · rw [hparts part hpart] at hx
        exact absurd hx List.not_mem_nil
  have hfield : (field, x) ∈ order part ↔ (field, some x) ∈ o.fields part := by
    rw [(horder part).mem_iff, List.mem_append, mem_spelled_iff, or_iff_left]
    exact fun h => hextra part (field, y) hy (List.mem_map_of_mem h)
  have hvalue : (o.fields part).lookup field = some y := (Toml.lookup_eq_some_iff_mem (nodup_fields o part)).mpr hy
  rw [htable, hfield, ← Toml.lookup_eq_some_iff_mem (nodup_fields o part), hvalue, Option.some.injEq]

end Overrides

/-! ### What the fields of a table are read as -/

section Fields

variable {α β : Type} {entries : Entries} {field : Text} {read : Toml.Value → Option α}

theorem fieldOr?_eq_map (setting : β → Setting) (f : β → α) (hread : ∀ b, read (setting b).value = some (f b))
    (default : α) {y : Option β} (h : entries.lookup field = (y.map setting).map Setting.value) :
    fieldOr? read default entries field = some ((y.map f).getD default) := by
  rw [fieldOr?, h]
  cases y with
  | none => rfl
  | some b => exact hread b

/-- A field has the value of its setting, or else its default. -/
theorem fieldOr?_eq (setting : α → Setting) (hread : ∀ a, read (setting a).value = some a) (default : α) {y : Option α}
    (h : entries.lookup field = (y.map setting).map Setting.value) :
    fieldOr? read default entries field = some (y.getD default) := by
  rw [fieldOr?_eq_map setting id hread default h, Option.map_id, id]

theorem textValue?_text (t : Text) : textValue? (Setting.text t).value = some t := rfl

theorem booleanValue?_boolean (b : Bool) : booleanValue? (Setting.boolean b).value = some b := rfl

theorem portValue?_number (p : Port) : portValue? (Setting.number p).value = some p := by
  have hp := p.isLt
  change portValue? (.integer p.val) = some p
  rw [portValue?, dif_pos (by omega)]
  rfl

theorem textsValue?_texts (ts : List Text) : textsValue? (Setting.texts ts).value = some ts := by
  change (ts.map Toml.Value.text).mapM textValue? = some ts
  induction ts with
  | nil => rfl
  | cons t ts ih => simp [textValue?, ih]

/-- Whether a table has the values of its fields. -/
def Overrides.HeldBy (o : Overrides) (part : Config.Part) (entries : Entries) : Prop :=
  ∀ f ∈ o.fields part, entries.lookup f.1 = f.2.map Setting.value

variable {o : Overrides} {kind : Toml.TableKind}

theorem ServerSettings.ofSection?_eq (h : o.HeldBy .server entries) :
    ServerSettings.ofSection? (.table kind entries) = some o.config.server := by
  simp only [Overrides.HeldBy, Overrides.fields, List.forall_mem_cons] at h
  obtain ⟨hhost, hport, huser, hpassword, hproperties, -⟩ := h
  simp only [ServerSettings.ofSection?, sectionEntries?, Option.bind_eq_bind, Option.bind_some,
    fieldOr?_eq .text textValue?_text _ hhost, fieldOr?_eq .number portValue?_number _ hport,
    fieldOr?_eq .text textValue?_text _ huser, fieldOr?_eq .text textValue?_text _ hpassword,
    fieldOr?_eq .texts textsValue?_texts _ hproperties]
  rfl

theorem DumpSettings.ofSection?_eq (h : o.HeldBy .dump entries) :
    DumpSettings.ofSection? (.table kind entries) = some o.config.dump := by
  simp only [Overrides.HeldBy, Overrides.fields, List.forall_mem_cons] at h
  obtain ⟨hprogram, hraw, -⟩ := h
  simp only [DumpSettings.ofSection?, sectionEntries?, Option.bind_eq_bind, Option.bind_some,
    fieldOr?_eq .text textValue?_text _ hprogram, fieldOr?_eq .boolean booleanValue?_boolean _ hraw]
  rfl

theorem LogSettings.ofSection?_eq (h : o.HeldBy .log entries) :
    LogSettings.ofSection? (.table kind entries) = some o.config.log := by
  simp only [Overrides.HeldBy, Overrides.fields, List.forall_mem_cons] at h
  obtain ⟨hlevel, hfile, hformat, hconsole, -⟩ := h
  have hnamed : fieldOr? (fun v => (textValue? v).map some) none entries "file" = some ((o.file.map some).getD none) :=
    fieldOr?_eq_map .text some (fun _ => rfl) none hfile
  simp only [LogSettings.ofSection?, sectionEntries?, Option.bind_eq_bind, Option.bind_some,
    fieldOr?_eq .text textValue?_text _ hlevel, hnamed, fieldOr?_eq .text textValue?_text _ hformat,
    fieldOr?_eq .boolean booleanValue?_boolean _ hconsole]
  rfl

end Fields

/-! ### What a document is read as -/

section Documents

variable {o : Overrides} {l : Layout} {part : Config.Part}

/-- The settings of a table. One that is not there has none. -/
def Config.Part.settings (part : Config.Part) (l : Layout) : Settings := (l.tables.lookup part.name).getD []

theorem Config.Part.mem_settings_iff (hl : l.IsDistinct) {e : Text × Setting} :
    e ∈ part.settings l ↔ ∃ es, (part.name, es) ∈ l.tables ∧ e ∈ es := by
  have hnames := (List.nodup_append.mp hl.names).2.1
  rw [Config.Part.settings]
  constructor
  · intro he
    cases htable : l.tables.lookup part.name with
    | none =>
      rw [htable] at he
      exact absurd he List.not_mem_nil
    | some es =>
      rw [htable] at he
      exact ⟨es, (Toml.lookup_eq_some_iff_mem hnames).mp htable, he⟩
  · rintro ⟨es, htable, he⟩
    rw [(Toml.lookup_eq_some_iff_mem hnames).mpr htable]
    exact he

theorem Config.Part.nodup_settings (hl : l.IsDistinct) : ((part.settings l).map Prod.fst).Nodup := by
  have hnames := (List.nodup_append.mp hl.names).2.1
  rw [Config.Part.settings]
  cases htable : l.tables.lookup part.name with
  | none => exact List.nodup_nil
  | some es => exact hl.keys (part.name, es) ((Toml.lookup_eq_some_iff_mem hnames).mp htable)

theorem Overrides.SpelledBy.heldBy (ho : o.SpelledBy l) (hl : l.IsDistinct) (part : Config.Part) :
    o.HeldBy part (part.settings l).entries := by
  intro f hf
  have hlookup : (part.settings l).lookup f.1 = f.2 := by
    refine Option.ext fun x => ?_
    rw [Toml.lookup_eq_some_iff_mem (Config.Part.nodup_settings hl), Config.Part.mem_settings_iff hl]
    exact ho.fields part f.1 f.2 hf x
  rw [← hlookup]
  exact Toml.lookup_map_snd Setting.value (part.settings l) f.1

/-- A table that is not there is read as one without settings. -/
theorem fieldOr?_part {α : Type} (read : Toml.Value → Option α) (default : α)
    (hempty : read (.table .header []) = some default) (hfront : part.name ∉ l.front.map Prod.fst) :
    fieldOr? read default l.entries part.name = read (.table .header (part.settings l).entries) := by
  have hlookup : l.entries.lookup part.name = (l.tables.lookup part.name).map fun es => .table .header es.entries := by
    have hnone : l.front.entries.lookup part.name = none := by
      refine Toml.lookup_eq_none_of_notMem ?_
      rw [Settings.entries, List.map_map]
      exact hfront
    rw [Layout.entries, List.lookup_append, hnone, Option.none_or]
    exact Toml.lookup_map_snd (fun es : Settings => Toml.Value.table .header es.entries) l.tables part.name
  rw [fieldOr?, hlookup, Config.Part.settings]
  cases l.tables.lookup part.name with
  | none => exact hempty.symm
  | some es => rfl

theorem Config.ofEntries?_eq (hl : l.IsDistinct) (ho : o.SpelledBy l) :
    Config.ofEntries? l.entries = some o.config := by
  have hserver : fieldOr? ServerSettings.ofSection? {} l.entries "mysql" = some o.config.server :=
    (fieldOr?_part ServerSettings.ofSection? {} rfl (ho.front .server)).trans
      (ServerSettings.ofSection?_eq (ho.heldBy hl .server))
  have hdump : fieldOr? DumpSettings.ofSection? {} l.entries "dump" = some o.config.dump :=
    (fieldOr?_part DumpSettings.ofSection? {} rfl (ho.front .dump)).trans
      (DumpSettings.ofSection?_eq (ho.heldBy hl .dump))
  have hlog : fieldOr? LogSettings.ofSection? {} l.entries "logging" = some o.config.log :=
    (fieldOr?_part LogSettings.ofSection? {} rfl (ho.front .log)).trans
      (LogSettings.ofSection?_eq (ho.heldBy hl .log))
  rw [Config.ofEntries?, hserver, hdump, hlog]
  rfl

end Documents

namespace Config

variable {o : Overrides} {l : Layout}

/-- A file that spells out some fields gives them their values, and the others the usual ones. The connection to the
server is then made of just these. -/
theorem load_spelled (hl : l.IsDistinct) (ho : o.SpelledBy l) :
    (∃ w, l.IsWritten w) ∧ ∀ reason files path w, l.IsWritten w → FileTree.readText files path = .ok w →
      load reason files path = .ok o.config ∧
      o.config.server.connection = {
        host := o.config.server.host, port := o.config.server.port, user := o.config.server.user
        password := o.config.server.password, properties := o.config.server.properties } := by
  refine ⟨l.exists_isWritten, fun reason files path w hw hfile => ⟨?_, o.config.server.connection_eq⟩⟩
  have hread : read? w = some o.config := by
    rw [read?, Toml.read?_of_isWritten hl hw]
    exact ofEntries?_eq hl ho
  rw [load, hfile]
  simp only [hread]

/-- Tables in another order and one left out, an unknown key in front and another in a table, a comment, and a text with
a mark and a line feed. -/
theorem load_spelled_reordered :
    let text : Text := "colour = \"red\"\n[dump]\nraw=true # no server\n\n" ++
      "[mysql]\nport = 65535\n\"\" = []\nhost = \"d\\\"b\\u000A\"\n"
    let files : FileTree := {
      entries := [(["w"], .directory), (["w", "c"], .file 1 (Utf8.encode text) false)], home := ["w"], next := 2 }
    let o : Overrides := { host := some "d\"b\n", port := some 65535, raw := some true }
    load (fun _ => []) files "c" = .ok o.config ∧ o.config.server.connection = { host := "d\"b\n", port := 65535 } := by
  intro text files o
  let l : Layout := {
    front := [("colour", .text "red")]
    tables := [("dump", [("raw", .boolean true)]),
      ("mysql", [("port", .number 65535), ("", .texts []), ("host", .text "d\"b\n")])] }
  have hdistinct : l.IsDistinct := ⟨by decide, by decide⟩
  have hspelled : o.SpelledBy l := by
    let order (part : Part) : Settings :=
      if part = .dump then [("raw", .boolean true)]
      else if part = .server then [("port", .number 65535), ("", .texts []), ("host", .text "d\"b\n")]
      else []
    let extra (part : Part) : Settings := if part = .server then [("", .texts [])] else []
    refine Overrides.spelledBy_of_perm [.dump, .server] order extra [] (fun part => ?_) (.refl _) (fun part h => ?_)
      (fun part => List.not_mem_nil) (fun part => ?_) fun part => ?_
    · cases part <;> decide
    · cases part with
      | log => rfl
      | server | dump => exact absurd (by decide) h
    · cases part <;> decide
    · cases part <;> decide
  have hwritten : l.IsWritten text := by
    have hbare (key : Text) (h : key ≠ [] ∧ key.all isBareKeyChar) : KeyWriting key key :=
      .bare h.1 (List.all_eq_true.mp h.2)
    have hself (c : Char) (h : isVisible c ∧ c ≠ '"' ∧ c ≠ '\\') : CharWriting c [c] := .plain h.1 h.2.1 h.2.2
    have hzero {w : Text} (hw : HexWriting 0 w) : HexWriting 0 (w ++ ['0']) := .snoc (d := 0) hw (by decide) (.inl rfl)
    have hten : HexWriting 10 "000A" := .snoc (d := 10) (hzero (hzero (hzero .nil))) (by decide) (.inr rfl)
    have hfeed : CharWriting '\n' "\\u000A" := .short hten rfl
    have hmark : CharWriting '"' ['\\', '"'] := .sign (by decide)
    have hhost : TextWriting ['d', '"', 'b', '\n'] _ :=
      .cons (hself 'd' (by decide)) (.cons hmark (.cons (hself 'b' (by decide)) (.cons hfeed .nil)))
    have hcomment : ∀ c ∈ (" no server" : Text), isVisible c := List.all_eq_true.mp (by decide)
    have hfront := SettingsWriting.entry isGap_nil (hbare "colour" (by decide)) isGap_space isGap_space
      (.text (textWriting_self (t := "red") (by decide))) isLineEnd_feed .nil
    have hdump := SettingsWriting.entry isGap_nil (hbare "raw" (by decide)) isGap_nil isGap_nil .yes
      (.mk isGap_space (.present hcomment) (.inl rfl)) (.blank isLineEnd_feed .nil)
    have hlast := SettingsWriting.entry isGap_nil (hbare "host" (by decide)) isGap_space isGap_space (.text hhost)
      isLineEnd_feed .nil
    have hempty := SettingsWriting.entry isGap_nil (.quoted .nil) isGap_space isGap_space
      (.texts (.nil (.gap isGap_nil))) isLineEnd_feed hlast
    have hserver := SettingsWriting.entry isGap_nil (hbare "port" (by decide)) isGap_space isGap_space (.number 65535)
      isLineEnd_feed hempty
    have htables : TablesWriting l.tables _ :=
      .cons isGap_nil isGap_nil (hbare "dump" (by decide)) isGap_nil isLineEnd_feed hdump
        (.cons isGap_nil isGap_nil (hbare "mysql" (by decide)) isGap_nil isLineEnd_feed hserver .nil)
    obtain ⟨w, hw, rfl⟩ : ∃ w, l.IsWritten w ∧ w = text := ⟨_, .mk hfront htables isGap_nil .absent, by decide +kernel⟩
    exact hw
  have hfile : files.readText "c" = .ok text := by
    have hplain : FileTree.IsPlain "c" := by decide
    rw [hplain.readText_eq (by decide) rfl]
    decide +kernel
  exact (load_spelled hdistinct hspelled).2 _ files "c" text hwritten hfile

end Config
end SchemaDrift
