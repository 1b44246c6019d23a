import AdlTables.Value.Sharing

/-! # Items

What values run through, item by item: texts run through their characters, bytes through their
numbers and mappings through their keys.
-/

namespace AdlTables.Value

/-- What a value runs through, if it runs through anything. -/
def items? (v : Value) : Option (List Value) :=
  match v.bare with
  | list items => some items
  | set items => some items
  | pair key value => some [key, value]
  | text s => some (s.toList.map fun c => text (String.singleton c))
  | bytes bs => some (bs.map fun b => int b.toNat)
  | mapping entries => some (entries.map (·.1))
  | _ => none

def listed? (v : Value) : Option (List Value) :=
  match v.bare with
  | list items => some items
  | set items => some items
  | pair key value => some [key, value]
  | _ => none

end AdlTables.Value
