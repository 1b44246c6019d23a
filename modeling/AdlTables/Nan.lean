import AdlTables.Path

/-! # Numbers that are none

What stands where a number is none is equal to nothing, not even to another of its kind, and a
mapping finds it as the object that it is. Documents in JSON all have one such object, and those in
YAML have one for the standard word; but a YAML node with a tag can ask for a new one, and then each
reading of the document makes another.
-/

namespace AdlTables

/-- A reading of a file; `turn` counts the readings like it before. -/
inductive Reading where
  /-- Of a file that is named. -/
  | named (path : String) (turn : Nat)
  /-- Of a file that is found for an import. -/
  | found (place : Path) (turn : Nat)
deriving DecidableEq, Repr

/-- An object that is no number. -/
inductive Nan where
  /-- The one of all documents in JSON. -/
  | json
  /-- The one that the standard word stands for in YAML. -/
  | yaml
  /-- One that is made for a node, with the readings that it comes from. -/
  | made (readings : List Reading) (node : Nat)
deriving DecidableEq, Repr, Inhabited

namespace Nan

/-- The object that a reading makes. -/
def inReading (r : Reading) : Nan → Nan
  | made readings node => made (r :: readings) node
  | x => x

theorem inReading_inj {r : Reading} {x y : Nan} (same : x.inReading r = y.inReading r) : x = y := by
  cases x <;> cases y <;> simp_all [inReading]

end Nan

end AdlTables
