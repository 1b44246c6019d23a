/-! # Blank characters

The characters that count as blank when text is trimmed: the separators of the character standard,
and the controls that move the print position or part one record from the next.
-/

namespace AdlTables.Text

/-- The code points, first to last of each range, that are blank. -/
def blankRanges : List (Nat × Nat) := [
    (0x9, 0xD), (0x1C, 0x20), (0x85, 0x85), (0xA0, 0xA0), (0x1680, 0x1680), (0x2000, 0x200A),
    (0x2028, 0x2029), (0x202F, 0x202F), (0x205F, 0x205F), (0x3000, 0x3000)]

/-- Blanks of every script, the line separators and the record separators. -/
def isBlank (c : Char) : Bool :=
  blankRanges.any fun range => range.1 ≤ c.toNat && c.toNat ≤ range.2

def dropBlank (chars : List Char) : List Char :=
  chars.dropWhile isBlank

/-- Text without the blanks in front. -/
def trimStart (s : String) : String :=
  String.ofList (dropBlank s.toList)

/-- Text without the blanks at either end. -/
def trim (s : String) : String :=
  String.ofList (dropBlank (dropBlank s.toList).reverse).reverse

/-- Characters without a line feed that ends them, if there are others in front of it. -/
def dropLineEnd (chars : List Char) : List Char :=
  match chars.reverse with
  | '\n' :: c :: rest => (c :: rest).reverse
  | _ => chars

/-- Text that trims to nothing. -/
def isBlankText (s : String) : Bool :=
  s.toList.all isBlank

end AdlTables.Text
