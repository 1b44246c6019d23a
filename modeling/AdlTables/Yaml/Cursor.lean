/-! # Cursors

A place in the text of a YAML document, with the characters from there on. Line ends are single
characters: a newline, a next-line control, or one of the two separators that stay what they are
when lines are joined.
-/

namespace AdlTables.Yaml

/-- Characters that end a line. -/
def isBreak (c : Char) : Bool :=
  c == '\n' || c.toNat == 0x85 || c.toNat == 0x2028 || c.toNat == 0x2029

/-- Characters that end a line, blanks and tabs. -/
def isGap (c : Char) : Bool :=
  c == ' ' || c == '\t' || isBreak c

/-- A place in a text. -/
structure Cursor where
  rest : List Char
  index : Nat
  line : Nat
  column : Nat

namespace Cursor

def start (chars : List Char) : Cursor := ⟨chars, 0, 0, 0⟩

/-- The character at a place, none at the end. -/
def peek (c : Cursor) : Option Char :=
  c.rest.head?

/-- Whether the character at a distance satisfies a test; the end of the text does as told. -/
def sees (c : Cursor) (distance : Nat) (atEnd : Bool) (test : Char → Bool) : Bool :=
  match (c.rest.drop distance).head? with
  | none => atEnd
  | some x => test x

def gapAt (c : Cursor) (distance : Nat) : Bool :=
  c.sees distance true isGap

/-- Whether the text goes on with the given characters. -/
def startsWith (c : Cursor) (chars : List Char) : Bool :=
  chars.isPrefixOf c.rest

/-- The place behind one character; the mark of byte order takes up no column. -/
def next (c : Cursor) : Cursor :=
  match c.rest with
  | [] => c
  | x :: rest =>
    if isBreak x then ⟨rest, c.index + 1, c.line + 1, 0⟩
    else ⟨rest, c.index + 1, c.line, if x.toNat = 0xFEFF then c.column else c.column + 1⟩

/-- The place behind several characters. -/
def skip (c : Cursor) : Nat → Cursor
  | 0 => c
  | n + 1 => c.next.skip n

/-- The place behind the characters that satisfy a test, and these. -/
def span (test : Char → Bool) (c : Cursor) : List Char × Cursor :=
  let found := c.rest.takeWhile test
  (found, c.skip found.length)

/-- The line end at a place and the place behind it; two of the four become newlines. -/
def lineBreak? (c : Cursor) : Option (Char × Cursor) :=
  match c.rest with
  | x :: _ =>
    if !isBreak x then none
    else some (if x.toNat = 0x85 then '\n' else x, c.next)
  | [] => none

/-- Whether the mark that starts or ends a document stands here. -/
def atSeparator (c : Cursor) : Bool :=
  (c.startsWith ['-', '-', '-'] || c.startsWith ['.', '.', '.']) && c.gapAt 3

/-- The place behind blanks and a comment. -/
def skipComment (c : Cursor) : Cursor :=
  let c := (c.span (· == ' ')).2
  if c.peek = some '#' then (c.span (!isBreak ·)).2 else c

end Cursor

end AdlTables.Yaml
