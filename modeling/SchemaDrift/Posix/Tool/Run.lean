import SchemaDrift.Posix.Tool.Coding
import SchemaDrift.Posix.Tool.Columns
import SchemaDrift.Posix.Tool.Difference
import SchemaDrift.Posix.Tool.Digest
import SchemaDrift.Posix.Tool.Edit.Run
import SchemaDrift.Posix.Tool.Find
import SchemaDrift.Posix.Tool.Number
import SchemaDrift.Posix.Tool.Order
import SchemaDrift.Posix.Tool.Record.Run
import SchemaDrift.Posix.Tool.Search

namespace SchemaDrift.Tool

/-- What a program of the system does with its arguments; it gets what lies around it and the name that it
is called by. -/
abbrev Behaviour : Type := Surroundings → Text → List Text → Effect

/-- The programs whose work is done by themselves. -/
def behaviours : List (String × Behaviour) :=
  let alone (b : Text → List Text → Effect) : Behaviour := fun _ => b
  [("true", alone fun _ _ => {}),
    ("false", alone fun _ _ => { status := 1 }),
    ("echo", alone fun _ => echo none),
    ("printf", alone fun called => printf none (called ++ ": ")),
    ("test", fun around called => test none (called ++ ": ") around.files),
    ("[", fun around called arguments =>
      if arguments.getLast? = some [']'] then test none (called ++ ": ") around.files arguments.dropLast
      else .complaint 2 (called ++ ": missing ']'")),
    ("cat", cat), ("tac", tac), ("rev", rev), ("head", head), ("tail", tail), ("nl", nl), ("wc", wc),
    ("sort", sort), ("uniq", uniq), ("comm", comm), ("cut", cut), ("paste", paste), ("tr", tr), ("tee", tee),
    ("fold", fold), ("sed", sed), ("od", od), ("base64", base64), ("cmp", cmp),
    ("grep", fun around called => grep around called false false),
    ("egrep", fun around _ => grep around "grep" true false),
    ("fgrep", fun around _ => grep around "grep" false true),
    ("diff", diff), ("md5sum", digests "MD5" Digest.md5), ("sha1sum", digests "SHA1" Digest.sha1),
    ("sha256sum", digests "SHA256" Digest.sha256), ("cksum", cksum), ("sum", sum), ("expand", expand), ("factor", factor),
    ("link", linkAlone), ("unlink", unlink), ("split", split),
    ("seq", alone seq), ("expr", alone expr), ("sleep", alone sleep), ("yes", alone yes),
    ("touch", touch), ("mkdir", makeDirectories), ("rmdir", removeDirectories), ("rm", remove), ("mv", mv), ("cp", cp),
    ("ln", ln), ("chmod", chmod), ("ls", ls), ("readlink", readlink), ("realpath", realpath),
    ("basename", alone basename), ("dirname", alone dirname), ("truncate", truncate), ("which", which), ("mktemp", mktemp),
    ("stat", stat), ("dd", dd), ("pwd", pwd), ("printenv", printenv), ("id", alone identity), ("uname", alone uname),
    ("whoami", alone (fact · user)), ("arch", alone (fact · "x86_64")),
    ("hostname", alone (fact · "localhost")), ("nproc", alone (fact · ['1'])),
    ("tty", alone fun _ _ => { Effect.line "not a tty" with status := 1 }),
    ("sync", alone fun _ _ => {}), ("date", alone fun _ _ => .line "Thu Jan  1 00:00:00 UTC 1970")]

/-- The programs that have commands run. -/
def planners : List (String × (Surroundings → Text → List Text → Plan)) :=
  [("awk", awk), ("mawk", awk), ("env", env), ("find", find), ("nice", nice), ("nohup", nohup), ("timeout", timeout), ("xargs", xargs)]

/-- What the program of a name does. -/
def plan (around : Surroundings) (name called : Text) (arguments : List Text) : Plan :=
  match planners.find? (·.1.toList = name) with
  | some (_, p) => p around called arguments
  | none =>
    match behaviours.find? (·.1.toList = name) with
    | some (_, b) => .ofEffect (b around called arguments)
    | none => {}

end SchemaDrift.Tool
