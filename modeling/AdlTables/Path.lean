import AdlTables.Text.Split

/-! # Paths

File paths as a root and the names behind it. Empty names and single points say nothing and are
dropped; steps to the parent directory stay, because what they lead to depends on the files. Two
slashes at the front are a root of their own.
-/

namespace AdlTables

/-- A path: a root, empty for paths from the current directory, and the names behind it. -/
structure Path where
  root : String
  parts : List String
deriving DecidableEq, Repr, Inhabited

namespace Path

def rootOf : List Char → String
  | '/' :: '/' :: '/' :: _ => "/"
  | '/' :: '/' :: _ => "//"
  | '/' :: _ => "/"
  | _ => ""

/-- Whether a name leads anywhere. -/
def isStep (name : String) : Bool :=
  name != "" && name != "."

/-- The path that a text denotes. -/
def ofString (s : String) : Path :=
  ⟨rootOf s.toList, (Text.splitText '/' s).filter isStep⟩

def display (p : Path) : String :=
  if p.root = "" ∧ p.parts = [] then "." else p.root ++ "/".intercalate p.parts

/-- A path continued by another, which stands alone if it has a root. -/
def join (a b : Path) : Path :=
  if b.root = "" then ⟨a.root, a.parts ++ b.parts⟩ else b

/-- The last name of a path, empty if it has none. -/
def name (p : Path) : String :=
  p.parts.getLastD ""

/-- The directory that holds what a path leads to. -/
def parent (p : Path) : Path :=
  ⟨p.root, p.parts.dropLast⟩

/-- A name split before its suffix; a point at the start or at the end makes none. -/
def splitSuffix (name : String) : String × String :=
  let behind := (name.toList.reverse.takeWhile (· != '.')).reverse
  let before := name.toList.take (name.length - behind.length - 1)
  if behind.isEmpty || before.isEmpty || behind.length == name.length then (name, "")
  else (String.ofList before, String.ofList ('.' :: behind))

/-- The suffix of the last name. -/
def suffix (p : Path) : String :=
  (splitSuffix p.name).2

/-- A path with the suffix of its last name replaced, if it has a name. -/
def withSuffix? (p : Path) (suffix : String) : Option Path :=
  if p.name = "" then none
  else some ⟨p.root, p.parts.dropLast ++ [(splitSuffix p.name).1 ++ suffix]⟩

/-- Whether a path holds the character that ends names for the system. -/
def hasNull (p : Path) : Bool :=
  p.parts.any fun part => part.toList.any (·.toNat == 0)

end Path

end AdlTables
