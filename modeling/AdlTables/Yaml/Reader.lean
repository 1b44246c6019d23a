import AdlTables.Yaml.Node.Grammar
import AdlTables.Yaml.Object
import AdlTables.Yaml.Token.Scan

/-! # Reading YAML

The value of the document in a text, by way of tokens, nodes and objects.
-/

namespace AdlTables.Yaml

/-- The value of the document in a text; a text without content is null. -/
def read (s : String) : Except Cause Value := do
  match ← Rooted.ofTokens (Tokens.ofText s) with
  | none => return .null
  | some doc => return (← Objects.ofNodes doc).value

end AdlTables.Yaml
