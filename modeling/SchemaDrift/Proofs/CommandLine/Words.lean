import SchemaDrift.CommandLine.Request
import SchemaDrift.Proofs.Source.Grammar

namespace SchemaDrift

open OptionItem (Spelling Spells)

/-- A word of the command line, with its value if it has one. -/
inductive Word where
  | schema (t : Text)
  | config (spelling : Spelling) (path : Text)
  | program (t : Text)
  | raw
  /-- A dash and one letter more than the number says. -/
  | verbose (more : Nat)
  deriving DecidableEq, Repr

namespace Word

/-- The arguments that a word is written as. -/
def written : Word → List Text
  | .schema t => [t]
  | .config s path => s.words 'c' "config" path
  | .program t => ["--" ++ ("mysqldump" ++ '=' :: t)]
  | .raw => ["--raw"]
  | .verbose n => ['-' :: List.replicate (n + 1) 'v']

def items : Word → List (OptionItem Switch)
  | .schema t => [.positional t]
  | .config _ path => [.option .config path]
  | .program t => [.option .program t]
  | .raw => [.flag .raw]
  | .verbose n => List.replicate (n + 1) (.flag .verbose)

/-- A word that is read as what it is. -/
def Legible : Word → Prop
  | .schema t => t.head? ≠ some '-'
  | .config s path => path ≠ [] ∧ s.Fits path
  | .program _ | .raw | .verbose _ => True

instance (w : Word) : Decidable w.Legible := by
  cases w <;> unfold Legible <;> infer_instance

@[simp] def schema? : Word → Option Text
  | .schema t => some t
  | _ => none

@[simp] def config? : Word → Option Text
  | .config _ path => some path
  | _ => none

@[simp] def program? : Word → Option Text
  | .program t => some t
  | _ => none

theorem spells {w : Word} (h : w.Legible) : Spells Switch.rules w.written w.items := by
  cases w with
  | schema t => exact OptionItem.spells_positional h
  | config s path =>
    let rule : OptionRule Switch := ⟨.config, some 'c', "config", true⟩
    have hname : rule.name ≠ [] := by decide
    have hequals : '=' ∉ rule.name := by decide
    have hletter : Switch.rules.find? (·.letter = some 'c') = some rule := rfl
    have hlong : Switch.rules.find? (·.name = rule.name) = some rule := rfl
    exact OptionItem.spells_option (by decide) hname hequals hletter hlong rfl h.2
  | program t =>
    let rule : OptionRule Switch := ⟨.program, none, "mysqldump", true⟩
    have hequals : '=' ∉ rule.name := by decide
    have hlong : Switch.rules.find? (·.name = rule.name) = some rule := rfl
    exact OptionItem.spells_long_equals hequals hlong rfl t
  | raw =>
    let rule : OptionRule Switch := ⟨.raw, none, "raw", false⟩
    have hname : rule.name ≠ [] := by decide
    have hequals : '=' ∉ rule.name := by decide
    have hlong : Switch.rules.find? (·.name = rule.name) = some rule := rfl
    exact OptionItem.spells_long hname hequals hlong Bool.false_ne_true
  | verbose n =>
    let rule : OptionRule Switch := ⟨.verbose, some 'v', "verbose", false⟩
    have hletter : Switch.rules.find? (·.letter = some 'v') = some rule := rfl
    exact OptionItem.spells_letter (by decide) hletter Bool.false_ne_true n

end Word

namespace Request

/-- The request once these words are taken into account too; each letter that asks for more detail counts. -/
def extended (r : Request) (ws : List Word) : Request where
  schemas := r.schemas ++ ws.filterMap Word.schema?
  config := (r.config.toList ++ ws.filterMap Word.config?).head?
  program := (r.program.toList ++ ws.filterMap Word.program?).head?
  raw := r.raw || ws.contains .raw
  verbosity := r.verbosity + (ws.flatMap Word.items).count (.flag .verbose)

/-- The words come as often as they may: two schemas, and each option but the wish for more detail once. -/
structure Admits (r : Request) (ws : List Word) : Prop where
  schemas : (r.schemas ++ ws.filterMap Word.schema?).length ≤ 2
  config : (r.config.toList ++ ws.filterMap Word.config?).length ≤ 1
  program : (r.program.toList ++ ws.filterMap Word.program?).length ≤ 1
  raw : r.raw.toNat + ws.count .raw ≤ 1

/-- What a command line of these words asks for. -/
def ofWords (ws : List Word) : Request := extended {} ws

variable {r : Request} {w : Word} {ws : List Word}

theorem length_head?_toList_le {α : Type} (xs : List α) : xs.head?.toList.length ≤ xs.length := by
  cases xs with
  | nil => exact Nat.le_refl 0
  | cons x xs => exact Nat.succ_le_succ (Nat.zero_le _)

theorem Admits.extended {us : List Word} (h : r.Admits (us ++ ws)) : (r.extended us).Admits ws := by
  obtain ⟨hschemas, hconfig, hprogram, hraw⟩ := h
  rw [List.filterMap_append, ← List.append_assoc, List.length_append] at hschemas hconfig hprogram
  refine ⟨?_, ?_, ?_, ?_⟩
  · rw [List.length_append]
    exact hschemas
  · rw [List.length_append]
    exact (Nat.add_le_add_right (length_head?_toList_le _) _).trans hconfig
  · rw [List.length_append]
    exact (Nat.add_le_add_right (length_head?_toList_le _) _).trans hprogram
  · have hfirst : (r.raw || us.contains .raw).toNat ≤ r.raw.toNat + us.count .raw := by
      cases hus : us.contains Word.raw with
      | false => simp
      | true =>
        have hpos : 0 < us.count .raw := List.count_pos_iff.mpr (List.contains_iff_mem.mp hus)
        have hle := Bool.toNat_le (r.raw || true)
        omega
    rw [List.count_append] at hraw
    change (r.raw || us.contains .raw).toNat + ws.count .raw ≤ 1
    omega

theorem Admits.of_append {us : List Word} (h : r.Admits (us ++ ws)) : r.Admits us := by
  obtain ⟨hschemas, hconfig, hprogram, hraw⟩ := h
  rw [List.filterMap_append, ← List.append_assoc, List.length_append] at hschemas hconfig hprogram
  rw [List.count_append] at hraw
  exact ⟨by omega, by omega, by omega, by omega⟩

end Request
end SchemaDrift
