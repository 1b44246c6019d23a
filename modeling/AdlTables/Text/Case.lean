import AdlTables.Text.Case.Table

/-! # Letter case

Small and capital forms of whole texts. A character may change into several, and the Greek capital
sigma has a small form of its own at the end of a word.
-/

namespace AdlTables.Text

namespace Case

/-- The code point that a list of runs maps `code` to, itself when no run holds it. -/
def shift (runs : List Run) (code : Nat) : Nat :=
  match runs.find? fun run =>
      run.1 ≤ code && code ≤ run.2.1 && (code - run.1) % run.2.2.1 == 0 with
  | some run => (code + run.2.2.2).toNat
  | none => code

/-- The form of a character under long forms first, then runs. -/
def change (long : List (Nat × List Nat)) (runs : List Run) (c : Char) : List Char :=
  match long.lookup c.toNat with
  | some codes => codes.map Char.ofNat
  | none => [Char.ofNat (shift runs c.toNat)]

/-- The small form of a character outside the seven-bit range or inside it. -/
def small (c : Char) : List Char :=
  if c.toNat < 128 then [c.toLower] else change longSmall smallRuns c

/-- The capital form of a character outside the seven-bit range or inside it. -/
def capital (c : Char) : List Char :=
  if c.toNat < 128 then [c.toUpper] else change longCapital capitalRuns c

def within (ranges : List (Nat × Nat)) (c : Char) : Bool :=
  ranges.any fun range => range.1 ≤ c.toNat && c.toNat ≤ range.2

/-- Whether the nearest character that is not skipped is a letter with case. -/
def meetsLetter (chars : List Char) : Bool :=
  match chars.dropWhile (within skippedRanges) with
  | [] => false
  | c :: _ => within casedRanges c

def capitalSigma : Char := Char.ofNat 0x3A3

/-- The small sigma that ends a word or the one inside it. -/
def smallSigma (before after : List Char) : Char :=
  if meetsLetter before && !meetsLetter after then Char.ofNat 0x3C2 else Char.ofNat 0x3C3

/-- Small forms of the characters, given those in front with the nearest first. -/
def smallForms (before : List Char) : List Char → List Char
  | [] => []
  | c :: rest =>
    (if c = capitalSigma then [smallSigma before rest] else small c)
      ++ smallForms (c :: before) rest

end Case

/-- Text in small letters. -/
def lower (s : String) : String :=
  String.ofList (Case.smallForms [] s.toList)

def upper (s : String) : String :=
  String.ofList (s.toList.flatMap Case.capital)

/-- Text that has letters with case, all of them capitals. -/
def isUpper (s : String) : Bool :=
  upper s == s && lower s != s

end AdlTables.Text
