import SchemaDrift.CommandLine.Run
import SchemaDrift.Proofs.CommandLine.Words
import SchemaDrift.Proofs.Comparison
import SchemaDrift.Proofs.Host.LogText

namespace SchemaDrift

section Logs

variable {c : Config} {host opened : Host} {old new a b : Text}

end Logs

namespace CommandLine

variable {words : Wording} {host opened : Host} {ws : List Word} {c d : Config} {old new a b : Text} {after : Session} {f : Failure}

end CommandLine
end SchemaDrift
