import AdlTables.Journal
import AdlTables.Layout.Directive
import AdlTables.Text.Numeral
import AdlTables.Text.Word

/-! # Layouts

How an entry of a journal is laid out in a line: text, and directives behind percent signs that say
which field of the entry stands there and how it is written. A layout has to name some field; what
is wrong with its directives comes out only when an entry is to be written, which is then left out.
-/

namespace AdlTables

/-- A part of a layout. -/
inductive LayoutPart where
  | literal (text : String)
  | directive (d : Layout.Directive)
  /-- A percent sign without a directive that can be written. -/
  | broken
deriving DecidableEq, Repr

/-- How an entry is laid out. -/
abbrev Layout := List LayoutPart

namespace Layout

/-- A directive that writes a field as a text. -/
def plainly (name : String) : LayoutPart :=
  .directive ⟨name, [], 0, none, 's'⟩

/-- The level, a colon and the message. -/
def usual : Layout := [plainly "levelname", .literal ": ", plainly "message"]

def flags : List Char := "#0+ -".toList

/-- A name behind its opening bracket, with what follows its closing bracket; brackets inside it are
in pairs, and `depth` of them are open. -/
def name? (depth : Nat) (name : List Char) : List Char → Option (String × List Char)
  | [] => none
  | ')' :: rest =>
    if depth = 0 then some (String.ofList name.reverse, rest)
    else name? (depth - 1) (')' :: name) rest
  | c :: rest => name? (if c = '(' then depth + 1 else depth) (c :: name) rest

/-- The most that a width or a number of places can be. -/
def mostAmount : Nat := 2147483647

/-- The number at the front of characters, if there are digits, and what follows it. -/
def amount? (chars : List Char) : Option (Option Nat × List Char) :=
  let digits := chars.takeWhile Text.isDigit
  let rest := chars.drop digits.length
  let n := Text.natural digits
  if digits.isEmpty then some (none, rest) else if n ≤ mostAmount then some (some n, rest) else none

/-- A directive behind its percent sign, and what follows it. A letter for the size of a number says
nothing, and a point without a number means no places. -/
def directive? (chars : List Char) : Option (Directive × List Char) := do
  let (name, rest) ← match chars with
    | '(' :: rest => name? 0 [] rest
    | _ => none
  let flagged := rest.takeWhile flags.contains
  let (width, rest) ← amount? (rest.drop flagged.length)
  let (places, rest) ← match rest with
    | '.' :: rest => (amount? rest).map fun (places, rest) => (some (places.getD 0), rest)
    | rest => some (none, rest)
  let rest := match rest with
    | 'h' :: rest | 'l' :: rest | 'L' :: rest => rest
    | rest => rest
  match rest with
  | form :: rest => some (⟨name, flagged, width.getD 0, places, form⟩, rest)
  | [] => none

/-- The parts of a layout; `fuel` is at least the number of characters. -/
def parts : Nat → List Char → Layout
  | 0, _ => []
  | fuel + 1, chars => match chars with
    | [] => []
    | '%' :: '%' :: rest => .literal "%" :: parts fuel rest
    | '%' :: rest => match directive? rest with
      | some (d, rest) => .directive d :: parts fuel rest
      | none => [.broken]
    | c :: rest => .literal (String.singleton c) :: parts fuel rest

/-- The letters that end a directive that names a field, in either case and with the letters that
have one of them as their small or capital form. -/
def forms : List Char :=
  let small := "diouxefgcrsa%".toList
  small ++ small.map Char.toUpper ++ ['ı', 'İ', 'ſ']

/-- Characters without an amount in front, with the digits of any script. -/
def dropAmount (chars : List Char) : List Char :=
  match chars with
  | '*' :: rest => rest
  | chars => chars.dropWhile Text.isScriptDigit

/-- Whether characters behind a percent sign and an opening bracket name a field by a word and go
on as a directive does. -/
def namesField (chars : List Char) : Bool :=
  let name := chars.takeWhile Text.isWordChar
  match chars.drop name.length with
  | ')' :: rest =>
    let rest := dropAmount (rest.dropWhile flags.contains)
    let rest := match rest with
      | '.' :: places =>
        let behind := dropAmount places
        if behind.length < places.length then behind else rest
      | rest => rest
    !name.isEmpty && rest.head?.any forms.contains
  | _ => false

/-- Whether a text names some field, wherever the directive starts. -/
def mentionsField : List Char → Bool
  | [] => false
  | '%' :: '(' :: rest => namesField rest || mentionsField rest
  | _ :: rest => mentionsField rest

/-- The layout that a text describes, which has to name some field; an empty text describes the
message alone. -/
def ofString? (s : String) : Option Layout :=
  if s = "" then some [plainly "message"]
  else if mentionsField s.toList then some (parts (s.length + 1) s.toList)
  else none

/-- The fields of an entry; all entries come from the one process and thread that there is. -/
def fields (level : Level) (message : String) : List (String × Value) := [
  ("levelname", .text level.label), ("levelno", .int level.rank), ("message", .text message),
  ("msg", .text message), ("processName", .text "MainProcess"), ("threadName", .text "MainThread"),
  ("exc_info", .null), ("exc_text", .null), ("stack_info", .null)]

/-- An entry in a layout, none if it does not fit. -/
def apply (layout : Layout) (level : Level) (message : String) : Option String := do
  let texts ← layout.mapM fun part => match part with
    | .literal text => some text
    | .directive d => ((fields level message).lookup d.name).bind d.write?
    | .broken => none
  return String.join texts

end Layout

end AdlTables
