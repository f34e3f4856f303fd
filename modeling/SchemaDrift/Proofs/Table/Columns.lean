import Mathlib.Data.List.Induction
import SchemaDrift.Proofs.Migration.FirstOccurrence
import SchemaDrift.Proofs.Migration.LastWins
import SchemaDrift.Proofs.Table.Additions

namespace SchemaDrift

section Putting

variable {c : Column} {cs new : List Column} {n : Text}

/-- A name that is there already keeps its place. -/
theorem map_name_putColumn_of_mem (h : c.name ∈ cs.map Column.name) :
    (putColumn c cs).map Column.name = cs.map Column.name := by
  induction cs with
  | nil => cases h
  | cons d cs ih =>
    rw [putColumn]
    split
    next hd => rw [List.map_cons, List.map_cons, hd]
    next hd =>
      have hrest : c.name ∈ cs.map Column.name :=
        (List.mem_cons.mp h).resolve_left fun he => hd he.symm
      rw [List.map_cons, List.map_cons, ih hrest]

/-- The first column of a name is the one that was put, and under other names nothing has changed. -/
theorem find?_putColumn :
    (putColumn c cs).find? (·.name = n) = if c.name = n then some c else cs.find? (·.name = n) := by
  induction cs with
  | nil =>
    by_cases hc : c.name = n <;> simp [putColumn, hc]
  | cons d cs ih =>
    rw [putColumn]
    by_cases hd : d.name = c.name
    · by_cases hc : c.name = n <;> simp [hd, hc]
    · by_cases hc : c.name = n
      · have hdn : d.name ≠ n := hc ▸ hd
        simpa [hd, hdn, hc] using ih
      · rw [if_neg hd, List.find?_cons, List.find?_cons, ih, if_neg hc, if_neg hc]

theorem putColumns_concat (cs new : List Column) (c : Column) :
    putColumns cs (new ++ [c]) = putColumn c (putColumns cs new) := by
  rw [putColumns, List.foldl_append]
  rfl

/-- The names stand in the order in which they came first. -/
theorem map_name_putColumns (new : List Column) :
    (putColumns [] new).map Column.name = (new.map Column.name).eraseDups := by
  induction new using List.reverseRecOn with
  | nil => rfl
  | append_singleton new c ih =>
    rw [putColumns_concat, List.map_append, List.map_singleton]
    by_cases hc : c.name ∈ new.map Column.name
    · rw [map_name_putColumn_of_mem (by rwa [ih, List.mem_eraseDups]), ih, eraseDups_append_cons hc, List.append_nil]
    · have hfresh : c.name ∉ (putColumns [] new).map Column.name := by rwa [ih, List.mem_eraseDups]
      have hkept : [c.name].removeAll (new.map Column.name) = [c.name] := by simpa [List.removeAll] using hc
      rw [putColumn_of_notMem hfresh, List.map_append, ih, List.eraseDups_append, hkept]
      rfl

/-- A look-up by name finds the column of that name that was put last. -/
theorem find?_putColumns (new : List Column) (n : Text) :
    (putColumns [] new).find? (·.name = n) = lastColumn? new n := by
  induction new using List.reverseRecOn with
  | nil => rfl
  | append_singleton new c ih =>
    rw [putColumns_concat, find?_putColumn, lastColumn?_eq, lastNamed?_concat, ih, lastColumn?_eq]

end Putting

namespace Table

variable {steps : List BuildStep} {t : Table} {c : Column} {name n : Text}

/-- Whether no column of that name is added behind the last addition of this one. -/
def IsLastColumn (steps : List BuildStep) (c : Column) : Prop :=
  ∃ before after, steps = before ++ .column c :: after ∧ ∀ d, BuildStep.column d ∈ after → d.name ≠ c.name

theorem mem_filterMap_column? : c ∈ steps.filterMap BuildStep.column? ↔ BuildStep.column c ∈ steps := by
  rw [List.mem_filterMap]
  constructor
  · rintro ⟨s, hs, hc⟩
    cases s <;> cases hc
    exact hs
  · intro h
    exact ⟨_, h, rfl⟩

theorem notMem_added_iff :
    n ∉ (steps.filterMap BuildStep.column?).map Column.name ↔ ∀ d, BuildStep.column d ∈ steps → d.name ≠ n := by
  rw [List.mem_map, not_exists]
  exact forall_congr' fun d => by rw [mem_filterMap_column?, not_and]

theorem isLastColumn_cons_iff {s : BuildStep} : IsLastColumn (s :: steps) c ↔
    IsLastColumn steps c ∨ s = .column c ∧ ∀ d, BuildStep.column d ∈ steps → d.name ≠ c.name := by
  constructor
  · rintro ⟨before, after, h, hafter⟩
    cases before with
    | nil =>
      obtain ⟨rfl, rfl⟩ := List.cons.inj h
      exact .inr ⟨rfl, hafter⟩
    | cons r before =>
      obtain ⟨rfl, rfl⟩ := List.cons.inj h
      exact .inl ⟨before, after, rfl, hafter⟩
  · rintro (⟨before, after, rfl, hafter⟩ | ⟨rfl, hafter⟩)
    · exact ⟨s :: before, after, rfl, hafter⟩
    · exact ⟨[], steps, rfl, hafter⟩

/-- The last of the added columns of a name is the one that its last addition put. -/
theorem lastColumn?_added_eq_some_iff :
    lastColumn? (steps.filterMap BuildStep.column?) n = some c ↔ c.name = n ∧ IsLastColumn steps c := by
  rw [lastColumn?_eq]
  induction steps with
  | nil =>
    constructor
    · rintro ⟨⟩
    · rintro ⟨-, before, after, h, -⟩
      cases before <;> cases h
  | cons s steps ih =>
    rw [isLastColumn_cons_iff]
    cases hs : s.column? with
    | none =>
      have hne : s ≠ .column c := by
        rintro rfl
        cases hs
      rw [List.filterMap_cons_none hs, ih]
      simp [hne]
    | some d =>
      obtain rfl : s = .column d := by
        cases s <;> cases hs
        rfl
      rw [List.filterMap_cons_some hs, lastNamed?_cons, Option.or_eq_some_iff, ih, lastNamed?_eq_none_iff,
        notMem_added_iff, Option.ite_none_right_eq_some, Option.some.injEq, BuildStep.column.injEq]
      constructor
      · rintro (⟨hn, hlast⟩ | ⟨hnone, hn, rfl⟩)
        · exact ⟨hn, .inl hlast⟩
        · exact ⟨hn, .inr ⟨rfl, fun e he => hn ▸ hnone e he⟩⟩
      · rintro ⟨hn, hlast | ⟨rfl, hnone⟩⟩
        · exact .inl ⟨hn, hlast⟩
        · exact .inr ⟨fun e he => hn ▸ hnone e he, hn, rfl⟩

/-- The parts of a table that is built. -/
theorem build_eq (name : Text) (steps : List BuildStep) : build name steps = {
    name
    columns := putColumns [] (steps.filterMap BuildStep.column?)
    primary := steps.filterMap BuildStep.primary?
    keys := steps.filterMap (BuildStep.key? .ordinary)
    uniqueKeys := steps.filterMap (BuildStep.key? .unique)
    content := (steps.filterMap BuildStep.content?).getLast?.getD [] } :=
  foldl_add steps { name }

/-- Column names never repeat in a table that is built. -/
theorem nodup_build (name : Text) (steps : List BuildStep) : ((build name steps).columns.map Column.name).Nodup := by
  rw [build_eq, map_name_putColumns]
  refine (pairwise_idxOf_eraseDups _).imp fun hlt he => ?_
  rw [he] at hlt
  exact Nat.lt_irrefl _ hlt

/-- Where column names do not repeat, the first column of a name is also the last one. -/
theorem column?_eq_lastColumn? (h : (t.columns.map Column.name).Nodup) (n : Text) :
    t.column? n = lastColumn? t.columns n := by
  have hreverse : (t.columns.reverse.map Column.name).Nodup := by
    rw [List.map_reverse, List.nodup_reverse]
    exact h
  have hfirst : t.column? n = lastNamed? Column.name t.columns.reverse n := by
    rw [lastNamed?, List.reverse_reverse]
    rfl
  ext c
  rw [hfirst, lastColumn?_eq, lastNamed?_eq_some_iff hreverse, lastNamed?_eq_some_iff h, List.mem_reverse]

/-- Whatever is added to a table and in whatever order, its column names are distinct and come in the order of
their first additions, every column is the one that was added last under its name, and that is what a look-up
finds. Of the rest nothing is lost and nothing changes places; of the contents the last one counts. -/
theorem build_keeps_last_columns (name : Text) (steps : List BuildStep) :
    let t := build name steps
    let added := (steps.filterMap BuildStep.column?).map Column.name
    (t.columns.map Column.name).Nodup ∧
    (∀ n, n ∈ t.columns.map Column.name ↔ n ∈ added) ∧
    (t.columns.map Column.name).Pairwise (fun m n => added.idxOf m < added.idxOf n) ∧
    (∀ c, c ∈ t.columns ↔ IsLastColumn steps c) ∧
    (∀ n c, t.column? n = some c ↔ c.name = n ∧ IsLastColumn steps c) ∧
    (∀ n, t.column? n = none ↔ ∀ c, BuildStep.column c ∈ steps → c.name ≠ n) ∧
    t.primary = steps.filterMap BuildStep.primary? ∧
    (∀ kind, t.keysOf kind = steps.filterMap (BuildStep.key? kind)) ∧
    t.content = (steps.filterMap BuildStep.content?).getLast?.getD [] := by
  intro t added
  have hparts := build_eq name steps
  have hnames : t.columns.map Column.name = added.eraseDups := by
    rw [show t = _ from hparts]
    exact map_name_putColumns _
  have hfind (n : Text) : t.column? n = lastColumn? (steps.filterMap BuildStep.column?) n := by
    rw [show t = _ from hparts]
    exact find?_putColumns _ n
  have hlast (n : Text) (c : Column) : t.column? n = some c ↔ c.name = n ∧ IsLastColumn steps c := by
    rw [hfind, lastColumn?_added_eq_some_iff]
  refine ⟨nodup_build name steps, fun n => ?_, ?_, fun c => ?_, hlast, fun n => ?_, ?_, fun kind => ?_, ?_⟩
  · rw [hnames, List.mem_eraseDups]
  · rw [hnames]
    exact pairwise_idxOf_eraseDups added
  · have hc := hlast c.name c
    rw [column?_eq_lastColumn? (nodup_build name steps), lastColumn?_eq,
      lastNamed?_eq_some_iff (nodup_build name steps)] at hc
    simpa using hc
  · rw [hfind, lastColumn?_eq, lastNamed?_eq_none_iff, notMem_added_iff]
  · rw [show t = _ from hparts]
  · rw [show t = _ from hparts]
    cases kind <;> rfl
  · rw [show t = _ from hparts]

end Table
end SchemaDrift
