/-! # Splitting at a character

The parts of a text between the places where one character stands. There is one part more than
there are such places, and joining the parts with the character gives the text back.
-/

namespace AdlTables.Text

/-- The parts between the places of a character, empty ones included. -/
def split (separator : Char) : List Char → List (List Char)
  | [] => [[]]
  | c :: rest =>
    if c = separator then [] :: split separator rest
    else match split separator rest with
      | [] => [[c]]
      | first :: others => (c :: first) :: others

def splitText (separator : Char) (s : String) : List String :=
  (split separator s.toList).map String.ofList

end AdlTables.Text
