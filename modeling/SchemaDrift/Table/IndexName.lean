import SchemaDrift.Text.Basic

namespace SchemaDrift

/-- The characters that wrap the columns of a column spec and never enter an index name. -/
def isWrapping (c : Char) : Bool := c = Text.tick || c = '(' || c = ')'

/-- The columns of a spec without their wrapping, up to the last one that is not empty. -/
def indexNameTokens (spec : Text) : List Text :=
  let tokens := (spec.splitOn ',').map fun token => token.filter (!isWrapping ·)
  (tokens.reverse.dropWhile (· = [])).reverse

/-- The name an added index takes: the columns of its spec joined by underscores. -/
def indexName (spec : Text) : Text := List.intercalate "_" (indexNameTokens spec)

/-- An identifier between quoting characters. -/
def quoteIdentifier (name : Text) : Text := Text.tick :: (name ++ [Text.tick])

end SchemaDrift
