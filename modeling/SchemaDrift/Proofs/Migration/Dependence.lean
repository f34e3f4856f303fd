import SchemaDrift.Proofs.Migration.FirstOccurrence
import SchemaDrift.Proofs.Migration.Locality
import Mathlib.Data.List.Forall2

namespace SchemaDrift

section Lists

variable {α : Type}

theorem rel_or {R : α → α → Prop} {a b c d : Option α} (h : Option.Rel R a b) (k : Option.Rel R c d) :
    Option.Rel R (a.or c) (b.or d) := by
  cases h with
  | some h => exact .some h
  | none => exact k

/-- Lists of related elements with the same names have related last elements of a name. -/
theorem rel_lastNamed? {nameOf : α → Text} {R : α → α → Prop} (hR : ∀ x y, R x y → nameOf x = nameOf y)
    {xs ys : List α} (h : List.Forall₂ R xs ys) (n : Text) :
    Option.Rel R (lastNamed? nameOf xs n) (lastNamed? nameOf ys n) := by
  induction h with
  | nil => exact .none
  | @cons x y xs ys hxy _ ih =>
    rw [lastNamed?_cons, lastNamed?_cons, hR x y hxy]
    refine rel_or ih ?_
    split
    · exact .some hxy
    · exact .none

end Lists

/-- The column specs that the last table of a name declares keys of one kind over. -/
def specsUnder (ts : List Table) (name : Text) (kind : KeyKind) : List Text :=
  (lastTable? ts name).elim [] (·.specs kind)

/-- The column specs of one kind in the order in which they first come. -/
def Table.firstSpecs (t : Table) (kind : KeyKind) : List Text := (t.specs kind).eraseDups

/-- Two keys over one spec, under one declared name unless the spec is one of those given. -/
structure Key.Alike (specs : List Text) (k l : Key) : Prop where
  spec : k.spec = l.spec
  name : k.spec ∉ specs → k.name = l.name

/-- What may differ in a table of the old side: the content, the primary key, the order of columns of
different names, and the declared names of keys whose specs the new side has. -/
structure OldAlike (new : List Table) (o p : Table) : Prop where
  name : o.name = p.name
  columns : Rearranged Column.name o.columns p.columns
  keys : ∀ kind, List.Forall₂ (Key.Alike (specsUnder new o.name kind)) (o.keysOf kind) (p.keysOf kind)

/-- What may differ in a table of the new side. Of one that the old side lacks only the content counts.
Of one that it has the content does not count, nor does the primary key, the order of columns of
different names, how keys are called, and whether a spec comes again. -/
structure NewAlike (old : List Table) (t u : Table) : Prop where
  name : t.name = u.name
  created : t.name ∉ old.map Table.name → t.content = u.content
  columns : t.name ∈ old.map Table.name → Rearranged Column.name t.columns u.columns
  keys : t.name ∈ old.map Table.name → ∀ kind, t.firstSpecs kind = u.firstSpecs kind

section Clauses

theorem columnClauses_congr {old old' new new' : List Column} (hold : Rearranged Column.name old old')
    (hnew : Rearranged Column.name new new') : columnClauses old new = columnClauses old' new' := by
  have hnames : sortedNames (old.map Column.name ++ new.map Column.name) =
      sortedNames (old'.map Column.name ++ new'.map Column.name) := by
    apply sortedNames_congr
    intro n
    rw [List.mem_append, List.mem_append, hold.mem_map_iff, hnew.mem_map_iff]
  rw [columnClauses, columnClauses, hnames]
  apply List.filterMap_congr
  intro n _
  rw [lastColumn?_eq, lastColumn?_eq, lastColumn?_eq, lastColumn?_eq, hold.lastNamed?_eq,
    hnew.lastNamed?_eq]

variable {old old' new new' : List Key}

theorem map_spec_of_alike {specs : List Text} (h : List.Forall₂ (Key.Alike specs) old old') :
    old.map Key.spec = old'.map Key.spec := by
  induction h with
  | nil => rfl
  | cons hk _ ih => rw [List.map_cons, List.map_cons, hk.spec, ih]

/-- The names of keys whose specs the new side has are not dropped. -/
theorem droppedNames_congr (h : List.Forall₂ (Key.Alike (new.map Key.spec)) old old')
    (hnew : ∀ spec, spec ∈ new.map Key.spec ↔ spec ∈ new'.map Key.spec) :
    droppedNames old new = droppedNames old' new' := by
  simp only [droppedNames, List.contains_eq_mem]
  induction h with
  | nil => rfl
  | @cons k l old old' hk _ ih =>
    by_cases hspec : k.spec ∈ new.map Key.spec
    · have hspec' : l.spec ∈ new'.map Key.spec := hk.spec ▸ (hnew _).mp hspec
      rw [List.filter_cons_of_neg (by simpa using hspec), List.filter_cons_of_neg (by simpa using hspec'),
        ih]
    · have hspec' : l.spec ∉ new'.map Key.spec := fun hl => hspec ((hnew _).mpr (hk.spec ▸ hl))
      rw [List.filter_cons_of_pos (by simpa using hspec), List.filter_cons_of_pos (by simpa using hspec'),
        List.map_cons, List.map_cons, hk.name hspec, ih]

theorem keyClauses_congr {kind : KeyKind} (h : List.Forall₂ (Key.Alike (new.map Key.spec)) old old')
    (hnew : (new.map Key.spec).eraseDups = (new'.map Key.spec).eraseDups) :
    keyClauses kind old new = keyClauses kind old' new' := by
  have hadded : addedKeys old new = addedKeys old' new' := by
    rw [addedKeys, addedKeys, eraseDups_filter, eraseDups_filter, hnew, map_spec_of_alike h]
  have hspecs : ∀ spec, spec ∈ new.map Key.spec ↔ spec ∈ new'.map Key.spec := by
    intro spec
    rw [← List.mem_eraseDups, hnew, List.mem_eraseDups]
  rw [keyClauses_eq, keyClauses_eq, hadded, droppedNames_congr h hspecs]

end Clauses

section Tables

variable {old old' new new' : List Table} {o p t u : Table} {n : Text}

theorem tableClauses_congr (ho : OldAlike new o p) (ht : NewAlike old t u)
    (hlast : lastTable? new o.name = some t) (hmem : t.name ∈ old.map Table.name) :
    tableClauses o t = tableClauses p u := by
  have hkeys (kind : KeyKind) :
      keyClauses kind (o.keysOf kind) (t.keysOf kind) =
        keyClauses kind (p.keysOf kind) (u.keysOf kind) := by
    apply keyClauses_congr
    · have hk := ho.keys kind
      rwa [specsUnder, hlast] at hk
    · exact ht.keys hmem kind
  have hordinary : keyClauses .ordinary o.keys t.keys = keyClauses .ordinary p.keys u.keys :=
    hkeys .ordinary
  have hunique : keyClauses .unique o.uniqueKeys t.uniqueKeys =
      keyClauses .unique p.uniqueKeys u.uniqueKeys := hkeys .unique
  rw [tableClauses, tableClauses, columnClauses_congr ho.columns (ht.columns hmem), hordinary, hunique]

/-- The statement for one name is the same on both sides. -/
theorem sql_change?_congr {o p t u : Option Table} (hold : Option.Rel (OldAlike new) o p)
    (hnew : Option.Rel (NewAlike old) t u) (ho : lastTable? old n = o) (ht : lastTable? new n = t) :
    (change? o t).map Change.sql = (change? p u).map Change.sql := by
  cases hnew with
  | none => rw [change?, change?]
  | @some t u htu =>
    have htn : t.name = n := name_of_lastNamed? ht
    cases hold with
    | none =>
      have hnot : t.name ∉ old.map Table.name := by
        rw [htn, ← lastNamed?_eq_none_iff]
        exact ho
      have hsql : (Change.create t).sql = (Change.create u).sql :=
        congrArg (· ++ (";\n\n" : Text)) (htu.created hnot)
      rw [change?, change?, Option.map_some, Option.map_some, hsql]
    | @some o p hop =>
      have hon : o.name = n := name_of_lastNamed? ho
      have hmem : t.name ∈ old.map Table.name := by
        rw [htn, ← hon]
        exact List.mem_map_of_mem (mem_of_lastNamed? ho)
      rw [change?, change?, tableClauses_congr hop htu (hon ▸ ht) hmem, htu.name]

theorem map_name_of_forall₂ {R : Table → Table → Prop} (hR : ∀ t u, R t u → t.name = u.name)
    {ts us : List Table} (h : List.Forall₂ R ts us) : ts.map Table.name = us.map Table.name := by
  induction h with
  | nil => rfl
  | cons hr _ ih => rw [List.map_cons, List.map_cons, hR _ _ hr, ih]

/-- What a script may depend on. Two pairs of schemas, alike table by table, have one and the same
script: it knows nothing of the primary keys and of how the keys of the new side are called, of the
declared names of old keys that stay, of the order of columns of different names, of specs that come
again, of the content of a table that both sides have, and of what else than its content a table has
that only the new side has. -/
theorem migrationScript_congr (hold : List.Forall₂ (OldAlike new) old old')
    (hnew : List.Forall₂ (NewAlike old) new new') :
    migrationScript old new = migrationScript old' new' := by
  have hnames : new.map Table.name = new'.map Table.name :=
    map_name_of_forall₂ (fun _ _ h => h.name) hnew
  have hsql : ∀ n, (change? (lastTable? old n) (lastTable? new n)).map Change.sql =
      (change? (lastTable? old' n) (lastTable? new' n)).map Change.sql := fun n =>
    sql_change?_congr (rel_lastNamed? (fun _ _ h => h.name) hold n)
      (rel_lastNamed? (fun _ _ h => h.name) hnew n) rfl rfl
  simp only [migrationScript, Migration.script, Migration.between, List.flatMap_def, List.map_filterMap,
    hnames, hsql]

/-- Keys under other names, columns in another order, a spec that comes again, other primary keys and
contents, and a new table of which only the content is the same. -/
theorem migrationScript_congr_renamed :
    let a : Column := ⟨"a", "int"⟩
    let b : Column := ⟨"b", "int"⟩
    let gone : Key := ⟨"gone", "`b`"⟩
    let created : Table := { name := "u", content := "CREATE TABLE `u` () ENGINE" }
    let old : List Table := [{ name := "t", columns := [a, b], primary := ["`a`"]
                               keys := [⟨"k", "`a`"⟩, gone], content := "old" }]
    let old' : List Table := [{ name := "t", columns := [b, a], keys := [⟨"l", "`a`"⟩, gone] }]
    let new : List Table := [{ name := "t", columns := [a], keys := [⟨"m", "`a`"⟩], content := "new" }, created]
    let new' : List Table := [{ name := "t", columns := [a], keys := [⟨"n", "`a`"⟩, ⟨"o", "`a`"⟩] },
      { created with columns := [b], uniqueKeys := [gone] }]
    List.Forall₂ (OldAlike new) old old' ∧ List.Forall₂ (NewAlike old) new new' ∧
      migrationScript old new = migrationScript old' new' := by
  intro a b gone created old old' new new'
  have hold : List.Forall₂ (OldAlike new) old old' := by
    refine .cons ⟨rfl, .swap (by decide) [] [], fun kind => ?_⟩ .nil
    cases kind with
    | ordinary =>
      have hstays : ("`a`" : Text) ∈ specsUnder new "t" .ordinary := by decide
      exact .cons ⟨rfl, fun h => absurd hstays h⟩ (.cons ⟨rfl, fun _ => rfl⟩ .nil)
    | unique => exact .nil
  have hnew : List.Forall₂ (NewAlike old) new new' := by
    have hboth : ("t" : Text) ∈ old.map Table.name := by decide
    have hcreated : ("u" : Text) ∉ old.map Table.name := by decide
    refine .cons ⟨rfl, fun h => absurd hboth h, fun _ => .refl _ _, fun _ kind => ?_⟩ (.cons
      ⟨rfl, fun _ => rfl, fun h => absurd h hcreated, fun h => absurd h hcreated⟩ .nil)
    cases kind with
    | ordinary =>
      have htwice : ("`a`" : Text) ∈ [("`a`" : Text)] := by decide
      exact (eraseDups_append_cons htwice []).symm
    | unique => rfl
  exact ⟨hold, hnew, migrationScript_congr hold hnew⟩

end Tables

end SchemaDrift
