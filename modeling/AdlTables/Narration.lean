import AdlTables.Journal
import AdlTables.Text.Case

/-! # Narration

The lines that tell how far a run is. Each starts with the sign of what it tells, or belongs to the
head of a phase, which is its title in capitals between two rules.
-/

namespace AdlTables

/-- What a line of narration tells. -/
inductive Marker where
  | success
  | progress
  | highlight
deriving DecidableEq, Repr

/-- The sign at the front of a line. -/
def Marker.sign : Marker → String
  | success => "✓"
  | progress => "→"
  | highlight => "•"

/-- The rule above and below the title of a phase. -/
def rule : String := String.ofList (List.replicate 60 '=')

def phaseTitle (name : String) : String :=
  "  " ++ Text.upper name

namespace Journaled

/-- Writes down a line of narration. -/
def tell (m : Marker) (text : String) : Journaled Unit :=
  note .info (m.sign ++ " " ++ text)

/-- Writes down the head of a phase. -/
def phase (name : String) : Journaled Unit := do
  note .info rule
  note .info (phaseTitle name)
  note .info rule

end Journaled

end AdlTables
