import AdlTables.Fault

/-! # Tokens

The tokens of a YAML text. The structure that indentation gives is made explicit: a block of lines
has a token at its start and one at its end, and each key has a token in front.
-/

namespace AdlTables.Yaml

/-- What a directive says. -/
inductive Directive where
  | version (major minor : Nat)
  | handle (name start : String)
  | other
deriving DecidableEq, Repr

/-- A token of a YAML text. -/
inductive Token where
  | streamEnd
  | directive (d : Directive)
  | documentStart
  | documentEnd
  | blockSequenceStart
  | blockMappingStart
  | blockEnd
  | flowSequenceStart
  | flowSequenceEnd
  | flowMappingStart
  | flowMappingEnd
  | blockEntry
  | flowEntry
  | key
  | value
  | alias (name : String)
  | anchor (name : String)
  | tag (handle : Option String) (suffix : String)
  | scalar (text : String) (plain : Bool)
deriving DecidableEq, Repr

/-- The tokens of a text, and why there are no more if the text is not read to its end. -/
structure Tokens where
  found : List Token
  failure : Option Cause

end AdlTables.Yaml
