import SchemaDrift.Table.Build

namespace SchemaDrift

namespace BuildStep

def column? : BuildStep → Option Column
  | .column c => some c
  | _ => none

def primary? : BuildStep → Option Text
  | .primary spec => some spec
  | _ => none

def key? (kind : KeyKind) : BuildStep → Option Key
  | .key kind' k => if kind' = kind then some k else none
  | _ => none

def content? : BuildStep → Option Text
  | .content block => some block
  | _ => none

end BuildStep

/-- The columns after these were put, one by one. -/
def putColumns (cs new : List Column) : List Column := new.foldl (fun cs c => putColumn c cs) cs

theorem putColumn_of_notMem {c : Column} {cs : List Column} (h : c.name ∉ cs.map Column.name) :
    putColumn c cs = cs ++ [c] := by
  induction cs with
  | nil => rfl
  | cons d cs ih =>
    obtain ⟨hd, hcs⟩ := List.ne_and_not_mem_of_not_mem_cons h
    rw [putColumn, if_neg (Ne.symm hd), ih hcs, List.cons_append]

/-- Columns that are new and differ in their names are put behind the others. -/
theorem putColumns_of_nodup {cs new : List Column} (h : ((cs ++ new).map Column.name).Nodup) :
    putColumns cs new = cs ++ new := by
  induction new generalizing cs with
  | nil => exact (List.append_nil cs).symm
  | cons c new ih =>
    have hfresh : c.name ∉ cs.map Column.name := by
      intro hmem
      rw [List.map_append, List.nodup_append] at h
      exact h.2.2 c.name hmem c.name (by simp) rfl
    rw [List.append_cons] at h ⊢
    rw [putColumns, List.foldl_cons, putColumn_of_notMem hfresh]
    exact ih h

theorem mem_or_mem_of_mem_putColumn {c d : Column} {cs : List Column} (h : d ∈ putColumn c cs) :
    d ∈ cs ∨ d = c := by
  induction cs with
  | nil => exact .inr (List.mem_singleton.mp h)
  | cons e cs ih =>
    rw [putColumn] at h
    split at h
    · rcases List.mem_cons.mp h with rfl | h
      · exact .inr rfl
      · exact .inl (List.mem_cons_of_mem e h)
    · rcases List.mem_cons.mp h with rfl | h
      · exact .inl List.mem_cons_self
      · exact (ih h).imp_left (List.mem_cons_of_mem e)

theorem mem_or_mem_of_mem_putColumns {d : Column} {cs new : List Column} (h : d ∈ putColumns cs new) :
    d ∈ cs ∨ d ∈ new := by
  induction new generalizing cs with
  | nil => exact .inl h
  | cons c new ih =>
    have hrest : d ∈ putColumn c cs ∨ d ∈ new := ih h
    rcases hrest with h | h
    · rcases mem_or_mem_of_mem_putColumn h with h | rfl
      · exact .inl h
      · exact .inr List.mem_cons_self
    · exact .inr (List.mem_cons_of_mem c h)

namespace Table

/-- Additions of one sort go to one part of a table, in their order; of the contents the last counts. -/
theorem foldl_add (steps : List BuildStep) (t : Table) :
    steps.foldl add t = {
      name := t.name
      columns := putColumns t.columns (steps.filterMap BuildStep.column?)
      primary := t.primary ++ steps.filterMap BuildStep.primary?
      keys := t.keys ++ steps.filterMap (BuildStep.key? .ordinary)
      uniqueKeys := t.uniqueKeys ++ steps.filterMap (BuildStep.key? .unique)
      content := (steps.filterMap BuildStep.content?).getLast?.getD t.content } := by
  induction steps generalizing t with
  | nil => simp [putColumns]
  | cons s steps ih =>
    rw [List.foldl_cons, ih]
    rcases s with c | spec | ⟨_ | _, k⟩ | block <;>
      simp [add, putColumns, List.filterMap_cons, List.getLast?_cons, BuildStep.column?,
        BuildStep.primary?, BuildStep.key?, BuildStep.content?]

/-- A table that gets its content first and then only declarations. -/
theorem build_content (name block : Text) {steps : List BuildStep}
    (h : steps.filterMap BuildStep.content? = []) :
    build name (.content block :: steps) = {
      name
      columns := putColumns [] (steps.filterMap BuildStep.column?)
      primary := steps.filterMap BuildStep.primary?
      keys := steps.filterMap (BuildStep.key? .ordinary)
      uniqueKeys := steps.filterMap (BuildStep.key? .unique)
      content := block } := by
  rw [build, List.foldl_cons, foldl_add, h]
  rfl

end Table
end SchemaDrift
