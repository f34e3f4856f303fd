import SchemaDrift.Posix.Shell.Builtin.Place
import SchemaDrift.Posix.Shell.Builtin.Reading
import SchemaDrift.Posix.Shell.Builtin.Setting

namespace SchemaDrift.Shell.Builtin

/-- The commands of the shell itself that run no other ones, by their names. -/
def table : List (String × (List Text → Act Unit)) :=
  let done (status : Nat) : List Text → Act Unit := fun _ => Act.setStatus status
  [(":", done 0), ("true", done 0), ("false", done 1), ("echo", echo), ("printf", printf), ("test", test "test"),
    ("[", test ['[']), ("exit", exit), ("return", return_), ("break", leaveLoops "break" .leave),
    ("continue", leaveLoops "continue" .again), ("shift", shift), ("set", set), ("export", export_),
    ("readonly", readonly), ("unset", unset), ("local", local_), ("let", let_), ("shopt", shopt), ("read", read),
    ("mapfile", mapfile), ("readarray", mapfile), ("getopts", getopts), ("trap", trap), ("kill", kill),
    ("wait", wait), ("cd", cd), ("chdir", cd), ("pwd", pwd), ("umask", umask), ("type", type),
    ("ulimit", fun _ => line "ulimit" "unlimited")]

/-- What the command of a name does, if it is one that runs no other ones. -/
def action? (s : State) (name : Text) : Option (List Text → Act Unit) :=
  if name = "declare" ∨ name = "typeset" then some (declare name (!s.frames.isEmpty))
  else (table.find? (·.1.toList = name)).map Prod.snd

end SchemaDrift.Shell.Builtin
