import Mathlib.Logic.Basic
import SchemaDrift.Proofs.Host.Path

namespace SchemaDrift

/-- The number of the file that is open, if a file is. -/
def Channel.number? : Channel → Option Nat
  | .file n _ _ => some n
  | .device _ => none

/-- What a log may do to what lies at one location: make a missing directory, or put what is written
into the file of the log's number, be it there, missing, or a program of the system so far. -/
inductive EntryLogged (log : Option Nat) : Option FileEntry → Option FileEntry → Prop
  | same (e : Option FileEntry) : EntryLogged log e e
  | directory : EntryLogged log none (some .directory)
  | created {n : Nat} (h : log = some n) (bytes : List UInt8) (executable : Bool) :
      EntryLogged log none (some (.file n bytes executable))
  | overlaid {n : Nat} (h : log = some n) (name : Text) (bytes : List UInt8) (executable : Bool) :
      EntryLogged log (some (.program name)) (some (.file n bytes executable))
  | written {n : Nat} (h : log = some n) (before bytes : List UInt8) (executable : Bool) :
      EntryLogged log (some (.file n before executable)) (some (.file n bytes executable))

theorem EntryLogged.trans {log : Option Nat} {a b c : Option FileEntry} (h : EntryLogged log a b)
    (k : EntryLogged log b c) : EntryLogged log a c := by
  cases h with
  | same => exact k
  | directory =>
    cases k with
    | same => exact .directory
  | created hn bytes x =>
    cases k with
    | same => exact .created hn bytes x
    | written hm _ bytes => exact .created hn bytes x
  | overlaid hn name bytes x =>
    cases k with
    | same => exact .overlaid hn name bytes x
    | written hm _ bytes => exact .overlaid hn name bytes x
  | written hn before bytes x =>
    cases k with
    | same => exact .written hn before bytes x
    | written hm _ bytes => exact .written hn before bytes x

theorem EntryLogged.eq_directory {log : Option Nat} {e : Option FileEntry}
    (h : EntryLogged log (some .directory) e) : e = some .directory := by
  cases h with
  | same => rfl

theorem EntryLogged.eq_link {log : Option Nat} {path : Text} {e : Option FileEntry}
    (h : EntryLogged log (some (.link path)) e) : e = some (.link path) := by
  cases h with
  | same => rfl

/-- Where there is something that is no link, the log leaves something that is no link. -/
theorem EntryLogged.exists_of_ne_link {log : Option Nat} {a : FileEntry} {e : Option FileEntry}
    (h : EntryLogged log (some a) e) (ha : ∀ path, a ≠ .link path) :
    ∃ b, e = some b ∧ ∀ path, b ≠ .link path := by
  cases h with
  | same => exact ⟨a, rfl, ha⟩
  | overlaid _ _ bytes x => exact ⟨.file _ bytes x, rfl, fun _ => FileEntry.noConfusion⟩
  | written _ _ bytes x => exact ⟨.file _ bytes x, rfl, fun _ => FileEntry.noConfusion⟩

/-- An entry once the file of a number has other contents. -/
def FileEntry.revised (n : Nat) (change : List UInt8 → List UInt8) : FileEntry → FileEntry
  | .file m bytes executable => .file m (if m = n then change bytes else bytes) executable
  | e => e

namespace FileTree

/-- The other tree is this one after a log has been at work, kept in the file of that number or in
none. -/
structure LoggedTo (log : Option Nat) (t t' : FileTree) : Prop where
  home : t'.home = t.home
  entries : ∀ l, EntryLogged log (t.entry? l) (t'.entry? l)

variable {log : Option Nat} {t t' u : FileTree} {l m : Location} {path : Text} {e : FileEntry} {n : Nat}

theorem LoggedTo.refl (log : Option Nat) (t : FileTree) : t.LoggedTo log t := ⟨rfl, fun _ => .same _⟩

theorem LoggedTo.trans (h : t.LoggedTo log t') (k : t'.LoggedTo log u) : t.LoggedTo log u :=
  ⟨k.home.trans h.home, fun l => (h.entries l).trans (k.entries l)⟩

/-- The number of the file that a path leads to, if it leads to a file. -/
def number? (t : FileTree) (path : Text) : Option Nat :=
  match t.find? path with
  | some (.file n _ _) => some n
  | _ => none

section Reading

/-- Where there was a directory, there is one. -/
theorem LoggedTo.isDirectory (h : t.LoggedTo log t') (hl : t.isDirectory l) : t'.isDirectory l := by
  rw [FileTree.isDirectory, decide_eq_true_iff] at hl ⊢
  have hentry := h.entries l
  rw [hl] at hentry
  exact hentry.eq_directory

/-- A log comes between no path and the place that it leads to. -/
theorem LoggedTo.walkThrough_eq_ok (h : t.LoggedTo log t') {links : Nat} {names : List Text}
    (hwalk : walkThrough links t l names = .ok m) : walkThrough links t' l names = .ok m := by
  fun_induction walkThrough links t l names with
  | case1 => rw [walkThrough]; exact hwalk
  | case2 | case5 | case6 | case7 => exact absurd hwalk (by simp)
  | case3 links l name rest hl hname ih =>
    have hl' := h.isDirectory (by simpa using hl)
    rw [walkThrough.eq_def]
    simp only [hl', Bool.not_true, Bool.false_eq_true, if_false, hname, if_true, ih hwalk]
  | case4 links l rest hl hname ih =>
    have hl' := h.isDirectory (by simpa using hl)
    rw [walkThrough.eq_def]
    simp only [hl', Bool.not_true, Bool.false_eq_true, if_false, hname, if_true, ih hwalk]
  | case8 l name rest hl hdot hup hlong path links hentry ih =>
    have hl' := h.isDirectory (by simpa using hl)
    have hafter := h.entries (l ++ [name])
    rw [hentry] at hafter
    rw [walkThrough.eq_def]
    simp only [hl', hafter.eq_link, Bool.not_true, Bool.false_eq_true, if_false, hdot, hup, hlong]
    exact ih hwalk
  | case9 l name rest hl hdot hup hlong a links hzero hsucc hentry ih =>
    have hl' := h.isDirectory (by simpa using hl)
    have hlink (path : Text) : a ≠ .link path := by
      cases links with
      | zero => exact hzero path rfl
      | succ k => exact hsucc path k rfl
    have hafter := h.entries (l ++ [name])
    rw [hentry] at hafter
    obtain ⟨b, hb, hblink⟩ := hafter.exists_of_ne_link hlink
    rw [walkThrough_entry hl' hdot hup hlong hb hblink]
    exact ih hwalk

theorem LoggedTo.locate_eq_ok (h : t.LoggedTo log t') (hl : t.locate path = .ok l) :
    t'.locate path = .ok l := by
  rw [locate] at hl ⊢
  obtain ⟨⟨⟩, hcheck, hwalk⟩ := Except.bind_eq_ok_iff.mp hl
  refine Except.bind_eq_ok_iff.mpr ⟨⟨⟩, hcheck, ?_⟩
  rw [start, h.home]
  exact h.walkThrough_eq_ok hwalk

theorem LoggedTo.pathExists (h : t.LoggedTo log t') (hpath : t.pathExists path) : t'.pathExists path := by
  cases hl : t.locate path with
  | error f =>
    rw [FileTree.pathExists, find?, hl] at hpath
    cases hpath
  | ok l =>
    rw [FileTree.pathExists, find?_eq_of_locate hl] at hpath
    rw [FileTree.pathExists, find?_eq_of_locate (h.locate_eq_ok hl)]
    have hafter := h.entries l
    generalize t.entry? l = a at hpath hafter
    generalize t'.entry? l = b at hafter ⊢
    cases hafter with
    | same => exact hpath
    | directory | created | overlaid | written => rfl

end Reading

section Writing

theorem lookup_map_entry (f : FileEntry → FileEntry) (xs : List (Location × FileEntry)) :
    (xs.map fun x => (x.1, f x.2)).lookup l = (xs.lookup l).map f := by
  induction xs with
  | nil => rfl
  | cons x xs ih =>
    rw [List.map_cons, List.lookup_cons, List.lookup_cons, ih]
    cases l == x.1 <;> rfl

theorem entries_revise (t : FileTree) (n : Nat) (change : List UInt8 → List UInt8) :
    (t.revise n change).entries = t.entries.map fun x => (x.1, x.2.revised n change) := by
  rw [revise]
  apply List.map_congr_left
  rintro ⟨l, e⟩ -
  cases e <;> rfl

theorem entry?_revise (t : FileTree) (n : Nat) (change : List UInt8 → List UInt8) (l : Location) :
    FileTree.entry? (t.revise n change) l = (t.entry? l).map (FileEntry.revised n change) := by
  rw [ entry?, entry?, apply_ite (Option.map _), entries_revise, lookup_map_entry]
  rfl

/-- Other contents of a file leave all other entries as they are. -/
theorem revised_cases (n : Nat) (change : List UInt8 → List UInt8) (e : Option FileEntry) :
    e.map (FileEntry.revised n change) = e ∨
      ∃ bytes x, e = some (.file n bytes x) ∧ e.map (FileEntry.revised n change) = some (.file n (change bytes) x) := by
  cases e with
  | none => exact .inl rfl
  | some e =>
    cases e with
    | file k bytes x =>
      by_cases hk : k = n
      · subst hk
        exact .inr ⟨bytes, x, rfl, by simp [FileEntry.revised]⟩
      · exact .inl (by simp [FileEntry.revised, hk])
    | _ => exact .inl rfl

/-- A log that is written to changes its own file. -/
theorem loggedTo_revise (t : FileTree) (n : Nat) (change : List UInt8 → List UInt8) :
    t.LoggedTo (some n) (t.revise n change) := by
  refine ⟨rfl, fun l => ?_⟩
  rw [ entry?_revise]
  rcases revised_cases n change (t.entry? l) with h | ⟨bytes, x, h, h'⟩
  · rw [h]
    exact .same _
  · rw [h', h]
    exact .written rfl _ _ _

/-- What is written could be taken back. -/
theorem revise_loggedTo (t : FileTree) (n : Nat) (change : List UInt8 → List UInt8) :
    (t.revise n change).LoggedTo (some n) t := by
  refine ⟨rfl, fun l => ?_⟩
  rw [ entry?_revise]
  rcases revised_cases n change (t.entry? l) with h | ⟨bytes, x, h, h'⟩
  · rw [h]
    exact .same _
  · rw [h', h]
    exact .written rfl _ _ _

/-- What making a directory comes to that cannot be made: it may be there. -/
def orThere (t : FileTree) (f : HostFault) : Except HostFault Location → Except HostFault FileTree
  | .ok l => if t.isDirectory l then .ok t else .error f
  | .error _ => .error f

/-- Writing brings no path up and takes none away. -/
theorem pathExists_of_write {c d : Channel} {bytes : List UInt8} (h : t.write c bytes = .ok (d, t')) (path : Text) :
    t'.pathExists path = t.pathExists path := by
  cases c with
  | file number offset appends =>
    cases h
    exact Bool.eq_iff_iff.mpr ⟨(revise_loggedTo t number _).pathExists, (loggedTo_revise t number _).pathExists⟩
  | device device =>
    cases device with
    | full =>
      obtain ⟨-, h⟩ | ⟨-, h⟩ := ite_eq_iff.mp h <;> cases h
      rfl
    | _ =>
      cases h
      rfl

end Writing

end FileTree

end SchemaDrift
