import AdlTables.Fault
import AdlTables.Text.Number
import AdlTables.Yaml.Cursor

/-! # Scalars in the text

The scalars of a YAML text in their four styles: plain, quoted with single or double quotes, and
block scalars, literal or folded. Where lines are joined a single line end becomes a blank and of
several the first is dropped; the two separators are kept as they are.
-/

namespace AdlTables.Yaml

/-- What stands between two parts of a scalar on different lines: the line end in front, then the
line ends of empty lines. -/
def joinLines (first : Char) (others : List Char) : List Char :=
  if first != '\n' then first :: others
  else if others.isEmpty then [' '] else others

namespace Plain

/-- Characters that have a meaning of their own inside brackets. -/
def isFlowMark (c : Char) : Bool :=
  c == ',' || c == '?' || c == '[' || c == ']' || c == '\x7b' || c == '\x7d'

def marksValue (flow : Bool) : List Char → Bool
  | [] => true
  | c :: _ => isGap c || (flow && isFlowMark c && c != '?')

/-- The characters up to the next gap or mark. -/
def chunk (flow : Bool) : List Char → List Char
  | [] => []
  | c :: rest =>
    if isGap c || (c == ':' && marksValue flow rest) || (flow && isFlowMark c) then []
    else c :: chunk flow rest

/-- The ends of empty lines, and the place behind them; none if a document ends there. -/
def emptyLines : Nat → List Char → Cursor → Option (List Char) × Cursor
  | 0, done, c => (some done.reverse, c)
  | fuel + 1, done, c =>
    if c.peek = some ' ' then emptyLines fuel done c.next
    else match c.lineBreak? with
      | none => (some done.reverse, c)
      | some (x, c) =>
        if c.atSeparator then (none, c) else emptyLines fuel (x :: done) c

/-- What stands between two parts, and whether a line ended; nothing ends the scalar. -/
def gap (fuel : Nat) (c : Cursor) : List Char × Cursor × Bool :=
  let (blanks, c) := c.span (· == ' ')
  match c.lineBreak? with
  | none => (blanks, c, false)
  | some (first, c) =>
    if c.atSeparator then ([], c, true)
    else match emptyLines fuel [] c with
      | (none, c) => ([], c, true)
      | (some others, c) => (joinLines first others, c, true)

/-- The rest of a scalar: its text, the place behind it, and whether it ended with a line; `done`
holds what was read, the last first. -/
def scan (flow : Bool) (indent : Nat) : Nat → List Char → List Char → Cursor → Bool →
    List Char × Cursor × Bool
  | 0, done, _, c, ended => (done.reverse, c, ended)
  | fuel + 1, done, between, c, ended =>
    let part := if c.peek = some '#' then [] else chunk flow c.rest
    if part.isEmpty then (done.reverse, c, ended)
    else
      let done := part.reverse ++ between.reverse ++ done
      let (between, c, ended) := gap fuel (c.skip part.length)
      if between.isEmpty || c.peek = some '#' || (!flow && c.column < indent) then
        (done.reverse, c, ended)
      else scan flow indent fuel done between c ended

end Plain

namespace QuotedScalar

open Cause (malformed orMalformed)

def escapes : List (Char × Nat) := [
  ('0', 0), ('a', 7), ('b', 8), ('t', 9), ('\t', 9), ('n', 10), ('v', 11), ('f', 12), ('r', 13),
  ('e', 27), (' ', 32), ('\x22', 34), ('\\', 92), ('/', 47), ('N', 0x85), ('_', 0xA0),
  ('L', 0x2028), ('P', 0x2029)]

/-- The number of digits of escapes that give a code point. -/
def codeEscapes : List (Char × Nat) := [('x', 2), ('u', 4), ('U', 8)]

/-- The line ends of empty lines; a document must not end among them. -/
def emptyLines : Nat → List Char → Cursor → Option (List Char × Cursor)
  | 0, _, _ => none
  | fuel + 1, done, c =>
    if c.atSeparator then none
    else
      let c := (c.span fun x => x == ' ' || x == '\t').2
      match c.lineBreak? with
      | some (x, c) => emptyLines fuel (x :: done) c
      | none => some (done.reverse, c)

/-- The first code point beyond all characters. -/
def codeLimit : Nat := 0x110000

/-- The first code point that a word of the system does not hold. -/
def codeWordLimit : Nat := Decimal.twoTo 31

def codeChar (digits : List Char) : Except Cause Char := do
  let code ← orMalformed (Text.number? 16 digits)
  if code ≥ codeWordLimit then Cause.breakDown .tooLarge
  else if code ≥ codeLimit then Cause.breakDown .badValue
  else return Char.ofNat code

/-- What a backslash in front stands for. -/
def escape (fuel : Nat) (c : Cursor) : Except Cause (List Char × Cursor) := do
  let x ← orMalformed c.peek
  match escapes.lookup x with
  | some code => return ([Char.ofNat code], c.next)
  | none => match codeEscapes.lookup x with
    | some width =>
      let digits := c.rest.tail.take width
      if digits.length < width then malformed
      else return ([← codeChar digits], c.skip (width + 1))
    | none =>
      let (_, c) ← orMalformed c.lineBreak?
      orMalformed (emptyLines fuel [] c)

/-- The blanks or line ends at a place. -/
def gap (fuel : Nat) (c : Cursor) : Option (List Char × Cursor) := do
  let (blanks, c) := c.span fun x => x == ' ' || x == '\t'
  if c.rest.isEmpty then none
  else match c.lineBreak? with
    | some (first, c) =>
      let (others, c) ← emptyLines fuel [] c
      return (joinLines first others, c)
    | none => return (blanks, c)

/-- The rest of a scalar up to its closing quote; `done` holds what was read, the last first. -/
def scan (quote : Char) : Nat → List Char → Cursor → Except Cause (List Char × Cursor)
  | 0, _, _ => malformed
  | fuel + 1, done, c => match c.rest with
    | [] => malformed
    | x :: rest =>
      if x = quote then
        if quote = '\x27' && rest.head? = some quote then
          scan quote fuel (quote :: done) (c.skip 2)
        else .ok (done.reverse, c.next)
      else if isGap x then do
        let (between, c) ← orMalformed (gap fuel c)
        scan quote fuel (between.reverse ++ done) c
      else if x = '\\' && quote = '\x22' then do
        let (chars, c) ← escape fuel c.next
        scan quote fuel (chars.reverse ++ done) c
      else scan quote fuel (x :: done) c.next

end QuotedScalar

namespace BlockScalar

/-- What becomes of the line ends at the end of a block scalar. -/
inductive Chomping where
  | strip
  | clip
  | keep
deriving DecidableEq, Repr

/-- The chomping that a mark stands for. -/
def chomping? (c : Char) : Option Chomping :=
  if c = '+' then some .keep else if c = '-' then some .strip else none

/-- The indentation that a digit stands for. -/
def increment? (c : Char) : Option Nat :=
  if '1' ≤ c && c ≤ '9' then some (c.toNat - '0'.toNat) else none

/-- The marks behind the indicator of a block scalar, in either order. -/
def marks (c : Cursor) : Chomping × Option Nat × Cursor :=
  let (first, c) := match c.peek.bind chomping? with
    | some m => (some m, c.next)
    | none => (none, c)
  let (increment, c) := match c.peek.bind increment? with
    | some n => (some n, c.next)
    | none => (none, c)
  match first, increment with
  | none, some _ => match c.peek.bind chomping? with
    | some m => (m, increment, c.next)
    | none => (.clip, increment, c)
  | first, _ => (first.getD .clip, increment, c)

/-- The first lines of a scalar whose indentation is not given: line ends, the widest column. -/
def measure : Nat → List Char → Nat → Cursor → List Char × Nat × Cursor
  | 0, done, widest, c => (done.reverse, widest, c)
  | fuel + 1, done, widest, c =>
    if c.peek = some ' ' then measure fuel done (max widest c.next.column) c.next
    else match c.lineBreak? with
      | some (x, c) => measure fuel (x :: done) widest c
      | none => (done.reverse, widest, c)

/-- The place behind at most the blanks of an indentation. -/
def skipIndent : Nat → Nat → Cursor → Cursor
  | 0, _, c => c
  | fuel + 1, indent, c =>
    if c.column < indent && c.peek = some ' ' then skipIndent fuel indent c.next else c

/-- The line ends of empty lines, and the place behind the indentation after them. -/
def emptyLines (indent : Nat) : Nat → List Char → Cursor → List Char × Cursor
  | 0, done, c => (done.reverse, c)
  | fuel + 1, done, c =>
    let c := skipIndent indent indent c
    match c.lineBreak? with
    | some (x, c) => emptyLines indent fuel (x :: done) c
    | none => (done.reverse, c)

/-- The lines of a scalar: its text, the last line end, and those of the empty lines behind it;
`done` holds what was read, the last first. -/
def lines (folded : Bool) (indent : Nat) : Nat → List Char → List Char → List Char → Cursor →
    List Char × List Char × List Char × Cursor
  | 0, done, last, empty, c => (done.reverse, last, empty, c)
  | fuel + 1, done, last, empty, c =>
    if c.column != indent || c.rest.isEmpty then (done.reverse, last, empty, c)
    else
      let startsText := !c.sees 0 false fun x => x == ' ' || x == '\t'
      let (line, c) := c.span (!isBreak ·)
      let done := line.reverse ++ empty.reverse ++ done
      let (last, c) := match c.lineBreak? with
        | some (x, c) => ([x], c)
        | none => ([], c)
      let (empty, c) := emptyLines indent fuel [] c
      if c.column == indent && !c.rest.isEmpty then
        let goesOn := !c.sees 0 false fun x => x == ' ' || x == '\t'
        let between := if folded && last == ['\n'] && startsText && goesOn then
          (if empty.isEmpty then [' '] else []) else last
        lines folded indent fuel (between.reverse ++ done) last empty c
      else (done.reverse, last, empty, c)

/-- A block scalar behind its indicator, inside a block of an indentation. -/
def scan (folded : Bool) (outer : Int) (fuel : Nat) (c : Cursor) :
    Option (List Char × Cursor) := do
  let (chomping, increment, c) := marks c
  if !c.sees 0 true fun x => x == ' ' || isBreak x then none
  else
    let c := c.skipComment
    let c ← match c.lineBreak? with
      | some (_, c) => some c
      | none => if c.rest.isEmpty then some c else none
    let least := max (outer + 1).toNat 1
    let (indent, empty, c) := match increment with
      | some n =>
        let indent := least + n - 1
        (indent, emptyLines indent fuel [] c)
      | none =>
        let (empty, widest, c) := measure fuel [] 0 c
        (max least widest, empty, c)
    let (text, last, empty, c) := lines folded indent fuel [] [] empty c
    let ends := match chomping with
      | .strip => []
      | .clip => last
      | .keep => last ++ empty
    return (text ++ ends, c)

end BlockScalar

end AdlTables.Yaml
