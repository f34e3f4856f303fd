import SchemaDrift.Host.Storage

namespace SchemaDrift

theorem Except.bind_eq_ok_iff {ε α β : Type} {x : Except ε α} {f : α → Except ε β} {b : β} :
    x >>= f = .ok b ↔ ∃ a, x = .ok a ∧ f a = .ok b := by
  cases x with
  | error e => simp [bind, Except.bind]
  | ok a => simp [bind, Except.bind]

namespace FileTree

variable {t : FileTree} {l : Location} {path name : Text} {e : FileEntry}

theorem find?_eq_of_locate (h : t.locate path = .ok l) : t.find? path = t.entry? l := by
  rw [find?, h]

/-- A name leads to what lies there, unless that is a link. -/
theorem walkThrough_entry {links : Nat} (hl : t.isDirectory l) (hdot : ¬ (name = [] ∨ name = "."))
    (hup : name ≠ "..") (hlong : ¬ isNameTooLong name) (he : t.entry? (l ++ [name]) = some e)
    (hlink : ∀ path, e ≠ .link path) (rest : List Text) :
    walkThrough links t l (name :: rest) = walkThrough links t (l ++ [name]) rest := by
  rw [walkThrough.eq_def]
  simp only [hl, he, Bool.not_true, Bool.false_eq_true, if_false, hdot, hup, hlong]
  cases e with
  | link path => exact absurd rfl (hlink path)
  | _ => cases links <;> rfl

/-- A name of something in a directory, as opposed to a path or a sign for a directory. -/
structure IsPlain (name : Text) : Prop where
  nonempty : name ≠ []
  slash : '/' ∉ name
  nul : '\x00' ∉ name
  dot : name ≠ "."
  up : name ≠ ".."
  short : ¬ isNameTooLong name

instance (name : Text) : Decidable (IsPlain name) :=
  decidable_of_iff (name ≠ [] ∧ '/' ∉ name ∧ '\x00' ∉ name ∧ name ≠ "." ∧ name ≠ ".." ∧ ¬ isNameTooLong name)
    ⟨fun ⟨nonempty, slash, nul, dot, up, short⟩ => ⟨nonempty, slash, nul, dot, up, short⟩,
      fun h => ⟨h.nonempty, h.slash, h.nul, h.dot, h.up, h.short⟩⟩

namespace IsPlain

variable (h : IsPlain name)
include h

theorem splitOn_eq : name.splitOn '/' = [name] := List.splitOn_eq_singleton h.slash

theorem checkPath_eq : checkPath name = .ok () := by
  have hnul : name.contains '\x00' = false := by
    rw [← Bool.not_eq_true, List.contains_iff_mem]
    exact h.nul
  have hshort := h.short
  rw [isNameTooLong, decide_eq_true_iff] at hshort
  rw [checkPath, hnul, if_neg Bool.false_ne_true, if_neg h.nonempty, if_neg (by omega)]

theorem start_eq (t : FileTree) : t.start name = t.home := by
  refine if_neg fun hhead => h.slash ?_
  exact List.mem_of_mem_head? hhead

/-- A plain name leads to what has that name in the working directory. -/
theorem locate_eq (hhome : t.isDirectory t.home) (he : t.entry? (t.home ++ [name]) = some e)
    (hlink : ∀ path, e ≠ .link path) : t.locate name = .ok (t.home ++ [name]) := by
  have hdot : ¬ (name = [] ∨ name = ".") := not_or.mpr ⟨h.nonempty, h.dot⟩
  refine Except.bind_eq_ok_iff.mpr ⟨(), h.checkPath_eq, ?_⟩
  rw [h.start_eq, h.splitOn_eq, walk, walkThrough_entry hhome hdot h.up h.short he hlink, walkThrough]

theorem pathExists_eq_false (hhome : t.isDirectory t.home) (he : t.entry? (t.home ++ [name]) = none) :
    t.pathExists name = false := by
  have hdot : ¬ (name = [] ∨ name = ".") := not_or.mpr ⟨h.nonempty, h.dot⟩
  have hlocate : t.locate name = .error .noSuchFile := by
    rw [locate, h.checkPath_eq, h.start_eq, h.splitOn_eq]
    change walkThrough linkLimit t t.home [name] = _
    rw [walkThrough.eq_def]
    simp only [hhome, he, Bool.not_true, Bool.false_eq_true, if_false, hdot, h.up, h.short]
  rw [pathExists, find?, hlocate]
  rfl

/-- The text of a file that has a plain name. -/
theorem readText_eq {n : Nat} {bytes : List UInt8} {executable : Bool} (hhome : t.isDirectory t.home)
    (he : t.entry? (t.home ++ [name]) = some (.file n bytes executable)) :
    t.readText name = (Utf8.decode bytes).mapError fun _ => .notText := by
  have hread : t.read name = .ok bytes := by
    refine Except.bind_eq_ok_iff.mpr ⟨_, h.locate_eq hhome he fun _ => FileEntry.noConfusion, ?_⟩
    rw [he]
  rw [readText, hread]
  rfl

end IsPlain

section Devices

variable {directory : Text} {d : Device}

end Devices
end FileTree
end SchemaDrift
