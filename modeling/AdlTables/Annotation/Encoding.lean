import AdlTables.TypeExpr.Encoding
import AdlTables.Annotation.Table

/-! # Encoded annotations

Annotations are written as a list of pairs, under any of three spellings of a pair, or as a mapping
whose keys are scoped names. Names that occur again replace the value they had.
-/

namespace AdlTables

/-- Annotations by name, in the order of their names' first occurrence. -/
abbrev Annotations := List (ScopedName × Value)

namespace Annotations

/-- The spellings of a pair: the key of the name and that of the value. -/
def spellings : List (String × String) := [("v1", "v2"), ("k", "v"), ("key", "value")]

/-- Annotations with one more, whose name has to be a key. -/
def insert (done : Annotations) (name : ScopedName) (payload : Value) : Except Fault Annotations :=
  if name.isKey then .ok (Entries.put done name payload) else Fault.breakDown .wrongKind

/-- The annotation that an entry of a list encodes, under the first spelling that it holds. -/
def ofEntry (entry : Value) : List (String × String) → Except Fault (ScopedName × Value)
  | [] => Fault.raise (.invalidAnnotationEntry entry)
  | (nameKey, valueKey) :: rest => do
    if ← entry.holds nameKey then
      let payload := (← entry.option valueKey).getD .null
      let name ← ScopedName.ofValue (← entry.member nameKey)
      return (name, payload)
    else ofEntry entry rest

def ofList (done : Annotations) : List Value → Except Fault Annotations
  | [] => .ok done
  | entry :: rest => do
    let (name, payload) ← ofEntry entry spellings
    ofList (← insert done name payload) rest

def ofMapping (done : Annotations) : List (Value × Value) → Except Fault Annotations
  | [] => .ok done
  | (key, payload) :: rest => do
    let name ← ScopedName.ofValue key
    ofMapping (← insert done name payload) rest

/-- The annotations that a value encodes; an empty value encodes none. -/
def ofValue (v : Value) : Except Fault Annotations :=
  if v.isEmpty then .ok []
  else match v.bare with
    | .mapping entries => ofMapping [] entries
    | _ => do ofList [] (← v.items)

end Annotations

/-- The column name that a payload gives, which has to be a text that is not blank. -/
def columnNameOf (payload owner : Value) : Except Fault String :=
  match payload with
  | .text s =>
    if Text.isBlankText s then Fault.raise (.invalidColumnName owner payload) else .ok s
  | _ => Fault.raise (.invalidColumnName owner payload)

end AdlTables
