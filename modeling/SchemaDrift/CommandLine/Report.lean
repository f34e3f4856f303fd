import SchemaDrift.Text.Basic

namespace SchemaDrift

/-- A text with more behind each of its line feeds. -/
def indented (indent t : Text) : Text := t.flatMap fun c => if c = '\n' then c :: indent else [c]

/-- A cause on lines of its own, with its number if there are several. -/
def writtenCause (numbered : Bool) (cause : Text) (n : Nat) : Text :=
  if numbered then
    let number := Text.ofNat n
    '\n' :: (List.replicate (5 - number.length) ' ' ++ number ++ ": " ++ indented "       " cause)
  else '\n' :: ("    " ++ indented "    " cause)

/-- The report of what could not be done and of the causes, each the cause of the one before it. -/
def failureReport (attempt : Text) (causes : List Text) : Text :=
  "Error: " ++ attempt ++ "\n\nCaused by:" ++
    (causes.zipIdx.flatMap fun (cause, n) => writtenCause (1 < causes.length) cause n) ++ "\n"

end SchemaDrift
