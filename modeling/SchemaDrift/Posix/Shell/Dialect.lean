namespace SchemaDrift.Shell

/-- Which shell a script is for: the plain one, or the one with extensions of its own. -/
inductive Dialect where
  | dash
  | bash
  deriving DecidableEq, Repr

end SchemaDrift.Shell
