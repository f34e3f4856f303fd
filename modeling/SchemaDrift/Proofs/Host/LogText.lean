import SchemaDrift.Proofs.Host.Journal

namespace SchemaDrift

namespace FileTree

variable {t t' : FileTree} {l : Location} {path : Text} {n : Nat}

theorem overwritten_end (old bytes : List UInt8) : overwritten old old.length bytes = old ++ bytes := by
  rw [overwritten, List.take_length, Nat.sub_self, List.replicate_zero, List.append_nil,
    List.drop_of_length_le (Nat.le_add_right _ _), List.append_nil]

/-- What is written at the end of a file comes behind what it holds. -/
theorem entry?_write_end {old : List UInt8} {x : Bool} (hl : t.entry? l = some (.file n old x)) (bytes : List UInt8) :
    ∃ t', t.write (.file n old.length false) bytes = .ok (.file n (old.length + bytes.length) false, t') ∧
      t'.entry? l = some (.file n (old ++ bytes) x) := by
  refine ⟨_, rfl, ?_⟩
  rw [entry?_revise, hl, Option.map_some, FileEntry.revised, if_pos rfl, ← overwritten_end]
  rfl

end FileTree

theorem Utf8.encode_append (a b : Text) : encode (a ++ b) = encode a ++ encode b := List.flatMap_append

namespace LogSettings

theorem kept_singleton (s : LogSettings) (format : LogFormat) (time : Text) (e : Event) :
    s.kept format time [e] = if (Level.ofText s.level).admits e.level then e.line format time else [] := by
  rw [kept, logText, List.filter_cons, List.filter_nil]
  split
  · exact List.append_nil _
  · rfl

end LogSettings

namespace Host

/-- The log of those settings is kept in the file of that number, which lies at that location and holds
the text so far; nothing has been lost. -/
structure HoldsLog (h : Host) (s : LogSettings) (n : Nat) (l : Location) (text : Text) : Prop where
  journal : h.journal = some {
    channel := .file n (Utf8.encode text).length false, format := s.fileFormat, kept := .ofText s.level }
  entry : ∃ x, h.files.entry? l = some (.file n (Utf8.encode text) x)

variable {h : Host} {s : LogSettings} {n : Nat} {l : Location} {text : Text}

/-- An event that is noted comes behind what the log holds, if it is of a level that is kept. -/
theorem HoldsLog.note (hlog : h.HoldsLog s n l text) (e : Event) :
    (h.note e).HoldsLog s n l (text ++ s.kept s.fileFormat h.time [e]) := by
  obtain ⟨hjournal, x, hentry⟩ := hlog
  by_cases hkept : (Level.ofText s.level).admits e.level
  · obtain ⟨files, hwrite, hentry'⟩ := FileTree.entry?_write_end hentry (Utf8.encode (e.line s.fileFormat h.time))
    have hnote : h.note e = { h with files, journal := some {
        channel := .file n ((Utf8.encode text).length + (Utf8.encode (e.line s.fileFormat h.time)).length) false
        format := s.fileFormat, kept := .ofText s.level } } := by
      rw [Host.note, hjournal]
      simp only [hkept, if_true, hwrite]
    rw [LogSettings.kept_singleton, if_pos hkept, hnote]
    constructor
    · rw [Utf8.encode_append, List.length_append]
    · exact ⟨x, by rw [Utf8.encode_append]; exact hentry'⟩
  · have hnote : h.note e = h := by
      rw [Host.note, hjournal]
      simp only [hkept, Bool.false_eq_true, if_false]
    rw [LogSettings.kept_singleton, if_neg hkept, List.append_nil, hnote]
    exact ⟨hjournal, x, hentry⟩

end Host

namespace LogSettings

variable {s : LogSettings} {host opened : Host} {after : Session} {n : Nat} {l : Location} {text : Text}

end LogSettings
end SchemaDrift
