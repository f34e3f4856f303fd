import SchemaDrift.Text.Basic

namespace SchemaDrift.Dump

/-- What every table block starts with. -/
def opening : Text := "CREATE TABLE "

/-- What ends the body of a table block. -/
def engine : Text := " ENGINE"

/-- The first block of a text and the text behind it. A block runs from an opening over the next
engine mark to the next semicolon, or to the end. -/
def nextBlock? (t : Text) : Option (Text × Text) := do
  let start ← Text.fromFirst? opening t
  let options ← Text.fromFirst? engine (start.drop opening.length)
  let rest := options.dropWhile (· ≠ ';')
  some (start.take (start.length - rest.length), rest)

/-- A block takes at least its opening from the text. -/
theorem length_of_nextBlock? {t b rest : Text} (h : nextBlock? t = some (b, rest)) :
    rest.length < t.length := by
  unfold nextBlock? at h
  cases hs : Text.fromFirst? opening t with
  | none => simp [hs] at h
  | some s =>
    cases ho : Text.fromFirst? engine (s.drop opening.length) with
    | none => simp [hs, ho] at h
    | some o =>
      simp only [hs, ho, bind, Option.bind, Option.some.injEq, Prod.mk.injEq] at h
      obtain ⟨-, rfl⟩ := h
      obtain ⟨⟨a, ha⟩, hp⟩ := Text.fromFirst?_eq_some hs
      obtain ⟨⟨b, hb⟩, -⟩ := Text.fromFirst?_eq_some ho
      have h1 : (o.dropWhile (· ≠ ';')).length ≤ o.length := (List.dropWhile_suffix _).length_le
      have h2 : s.length - opening.length = b.length + o.length := by
        rw [← List.length_append, ← hb, List.length_drop]
      have h3 : opening.length ≤ s.length := hp.length_le
      have h4 : opening.length = 13 := rfl
      have h5 : t.length = a.length + s.length := by rw [ha, List.length_append]
      omega

/-- The blocks of a text, in order and apart from each other. -/
def blocks (t : Text) : List Text :=
  match h : nextBlock? t with
  | none => []
  | some (b, rest) =>
    have := length_of_nextBlock? h
    b :: blocks rest
termination_by t.length

/-- The name between the first two quoting characters of a line. -/
def quotedName? (line : Text) : Option Text := do
  let (_, opened) ← line.cutAt? Text.tick
  let (name, _) ← opened.cutAt? Text.tick
  some name

/-- The name of the table a block declares: the first one quoted on a single line. -/
def tableName? (block : Text) : Option Text := (block.splitOn '\n').findSome? quotedName?

end SchemaDrift.Dump
