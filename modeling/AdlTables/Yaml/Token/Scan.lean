import AdlTables.Yaml.Token.Scalar
import AdlTables.Yaml.Token.Mark

/-! # Scanning

The tokens of a text, in one pass from left to right. A key on one line is known as a key only when
its colon comes, so each place where one may start is remembered and the token of the key is put in
there later. A place is forgotten at the end of its line or after a thousand characters. A scan that
fails still gives the tokens in front of the first place that it remembers, since no token can come
between these.
-/

namespace AdlTables.Yaml

/-- A place where a key may have started. -/
structure KeyStart where
  /-- The number of tokens in front. -/
  token : Nat
  /-- Whether nothing but a key can start here. -/
  required : Bool
  index : Nat
  line : Nat
  column : Nat

/-- A scan on its way. -/
structure Scan where
  cursor : Cursor
  /-- The tokens so far, the last first. -/
  tokens : List Token
  /-- The number of tokens so far. -/
  count : Nat
  /-- The number of brackets that are open. -/
  flow : Nat
  indent : Int
  indents : List Int
  /-- Whether a key may start here. -/
  mayStart : Bool
  /-- Starts of keys by the number of brackets open there. -/
  starts : List (Nat × KeyStart)

namespace Scan

open Cause (malformed orMalformed)

def start (chars : List Char) : Scan :=
  let c := Cursor.start chars
  let c := if c.sees 0 false (·.toNat == 0xFEFF) then c.next else c
  ⟨c, [], 0, 0, -1, [], true, []⟩

def push (s : Scan) (t : Token) : Scan :=
  { s with tokens := t :: s.tokens, count := s.count + 1 }

def insertAt (s : Scan) (place : Nat) (t : Token) : Scan :=
  let behind := s.count - place
  { s with
    tokens := s.tokens.take behind ++ t :: s.tokens.drop behind
    count := s.count + 1 }

def pass (s : Scan) (t : Token) (c : Cursor) : Scan :=
  { s.push t with cursor := c }

def mostKeyLength : Nat := 1024

/-- A scan at the next token, behind blanks, comments and line ends. -/
def toToken : Nat → Scan → Scan
  | 0, s => s
  | fuel + 1, s =>
    let c := s.cursor.skipComment
    match c.lineBreak? with
    | some (_, c) => toToken fuel { s with cursor := c, mayStart := s.mayStart || s.flow == 0 }
    | none => { s with cursor := c }

def isFar (s : Scan) (k : KeyStart) : Bool :=
  k.line != s.cursor.line || s.cursor.index - k.index > mostKeyLength

/-- Forgets starts of keys that are too far back. -/
def forgetFar (s : Scan) : Except Cause Scan :=
  if s.starts.any fun (_, k) => s.isFar k && k.required then malformed
  else .ok { s with starts := s.starts.filter fun (_, k) => !s.isFar k }

/-- Ends the blocks that are indented more than a column. -/
def unwind : Nat → Int → Scan → Scan
  | 0, _, s => s
  | fuel + 1, column, s =>
    if s.flow == 0 && s.indent > column then
      unwind fuel column { s.push .blockEnd with
        indent := s.indents.headD (-1), indents := s.indents.tail }
    else s

/-- Ends the blocks that are indented more than a column, as many as there are. -/
def unwindTo (s : Scan) (column : Int) : Scan :=
  s.unwind (s.indents.length + 1) column

/-- Starts a block at a column if it is indented more than the one around it. -/
def indentTo (s : Scan) (column : Nat) (place : Nat) (t : Token) : Scan :=
  if s.indent < column then
    { s.insertAt place t with indent := column, indents := s.indent :: s.indents }
  else s

/-- Forgets the start of a key at this number of brackets. -/
def forget (s : Scan) : Except Cause Scan :=
  match s.starts.lookup s.flow with
  | some k =>
    if k.required then malformed
    else .ok { s with starts := s.starts.filter fun (level, _) => level != s.flow }
  | none => .ok s

/-- Remembers that a key may start here. -/
def remember (s : Scan) : Except Cause Scan :=
  if !s.mayStart then .ok s
  else do
    let s ← s.forget
    let c := s.cursor
    let required := s.flow == 0 && s.indent == (c.column : Int)
    return { s with
      starts := (s.flow, ⟨s.count, required, c.index, c.line, c.column⟩) :: s.starts }

/-- A scan before which, or before whose token, no key may start. -/
def forbid (s : Scan) (mayStart : Bool) : Scan :=
  { s with mayStart := mayStart }

/-- A token that a key may start with, after which none may start. -/
def content (s : Scan) (read : Cursor → Except Cause (Token × Cursor)) : Except Cause Scan := do
  let s ← s.remember
  let (t, c) ← read s.cursor
  return (s.pass t c).forbid false

/-- The mark between documents, or a directive. -/
def boundary (s : Scan) (read : Cursor → Except Cause (Token × Cursor)) : Except Cause Scan := do
  let s ← (s.unwindTo (-1)).forget
  let (t, c) ← read s.cursor
  return (s.pass t c).forbid false

def openFlow (s : Scan) (t : Token) : Except Cause Scan := do
  let s ← s.remember
  return { s.pass t s.cursor.next with flow := s.flow + 1, mayStart := true }

def closeFlow (s : Scan) (t : Token) : Except Cause Scan :=
  if s.flow == 0 then malformed
  else do
    let s ← s.forget
    return { s.pass t s.cursor.next with flow := s.flow - 1, mayStart := false }

/-- A comma between brackets. -/
def flowEntry (s : Scan) : Except Cause Scan := do
  let s ← s.forget
  return (s.pass .flowEntry s.cursor.next).forbid true

/-- The dash of an item. -/
def blockEntry (s : Scan) : Except Cause Scan := do
  if s.flow == 0 && !s.mayStart then malformed
  else
    let s := if s.flow == 0 then s.indentTo s.cursor.column s.count .blockSequenceStart else s
    let s ← (s.forbid true).forget
    return s.pass .blockEntry s.cursor.next

/-- The question mark of a key. -/
def explicitKey (s : Scan) : Except Cause Scan := do
  if s.flow == 0 && !s.mayStart then malformed
  else
    let s := if s.flow == 0 then s.indentTo s.cursor.column s.count .blockMappingStart else s
    let s ← (s.forbid (s.flow == 0)).forget
    return s.pass .key s.cursor.next

def valueMark (s : Scan) : Except Cause Scan := do
  match s.starts.lookup s.flow with
  | some k =>
    let s := { s with starts := s.starts.filter fun (level, _) => level != s.flow }
    let s := s.insertAt k.token .key
    let s := if s.flow == 0 then s.indentTo k.column k.token .blockMappingStart else s
    return (s.pass .value s.cursor.next).forbid false
  | none =>
    if s.flow == 0 && !s.mayStart then malformed
    else
      let s := if s.flow == 0 then s.indentTo s.cursor.column s.count .blockMappingStart else s
      let s ← (s.forbid (s.flow == 0)).forget
      return s.pass .value s.cursor.next

def blockScalar (fuel : Nat) (s : Scan) (folded : Bool) : Except Cause Scan := do
  let s ← (s.forbid true).forget
  let (text, c) ← orMalformed (BlockScalar.scan folded s.indent fuel s.cursor.next)
  return s.pass (.scalar (String.ofList text) false) c

def quotedScalar (fuel : Nat) (quote : Char) (c : Cursor) : Except Cause (Token × Cursor) := do
  let (text, c) ← QuotedScalar.scan quote fuel [] c.next
  return (.scalar (String.ofList text) false, c)

/-- A plain scalar, after which a key may start if a line ended. -/
def plainScalar (fuel : Nat) (s : Scan) : Except Cause Scan := do
  let s ← s.remember
  let (text, c, ended) :=
    Plain.scan (s.flow != 0) (s.indent + 1).toNat fuel [] [] s.cursor false
  return (s.pass (.scalar (String.ofList text) true) c).forbid ended

/-- Characters that no plain scalar starts with unless something particular follows. -/
def isIndicator (c : Char) : Bool :=
  isGap c || "-?:,[]\x7b\x7d#&*!|>'\x22%@\x60".toList.contains c

def startsPlain (s : Scan) (c : Char) : Bool :=
  !isIndicator c
    || (!s.cursor.gapAt 1 && (c == '-' || (s.flow == 0 && (c == '?' || c == ':'))))

/-- The token that starts with a character. -/
def dispatch (fuel : Nat) (s : Scan) (x : Char) : Except Cause Scan :=
  let c := s.cursor
  let three (t : Token) : Cursor → Except Cause (Token × Cursor) := fun c => .ok (t, c.skip 3)
  let reference (t : String → Token) : Cursor → Except Cause (Token × Cursor) := fun c =>
    orMalformed ((Mark.reference c).map fun (n, c) => (t n, c))
  if x = '%' && c.column = 0 then s.boundary Mark.directive
  else if x = '-' && c.column = 0 && c.atSeparator then s.boundary (three .documentStart)
  else if x = '.' && c.column = 0 && c.atSeparator then s.boundary (three .documentEnd)
  else if x = '[' then s.openFlow .flowSequenceStart
  else if x = '\x7b' then s.openFlow .flowMappingStart
  else if x = ']' then s.closeFlow .flowSequenceEnd
  else if x = '\x7d' then s.closeFlow .flowMappingEnd
  else if x = ',' then s.flowEntry
  else if x = '-' && c.gapAt 1 then s.blockEntry
  else if x = '?' && (s.flow != 0 || c.gapAt 1) then s.explicitKey
  else if x = ':' && (s.flow != 0 || c.gapAt 1) then s.valueMark
  else if x = '*' then s.content (reference .alias)
  else if x = '&' then s.content (reference .anchor)
  else if x = '!' then s.content fun c => orMalformed (Mark.tag c)
  else if x = '|' && s.flow == 0 then s.blockScalar fuel false
  else if x = '>' && s.flow == 0 then s.blockScalar fuel true
  else if x = '\x27' || x = '\x22' then s.content (quotedScalar fuel x)
  else if s.startsPlain x then s.plainScalar fuel
  else malformed

/-- A scan at the next character that starts a token, with the ends of blocks in front of it. -/
def approach (fuel : Nat) (s : Scan) : Except Cause Scan := do
  let s ← (s.toToken fuel).forgetFar
  return s.unwindTo s.cursor.column

/-- A scan with the next token, and whether the text goes on; `fuel` is more than the number of
characters that are left. -/
def step (fuel : Nat) (s : Scan) : Except Cause (Scan × Bool) := do
  let s ← s.approach fuel
  match s.cursor.peek with
  | none => return ((← (s.unwindTo (-1)).forget).push .streamEnd, false)
  | some x => return (← s.dispatch fuel x, true)

/-- The number of tokens that no token can come between any more. -/
def settled (s : Scan) : Nat :=
  s.starts.foldl (fun n (_, k) => if s.isFar k then n else min n k.token) s.count

/-- The tokens from a place in a scan to the end of the text. -/
def run : Nat → Scan → Tokens
  | 0, s => ⟨s.tokens.reverse, some (.obstacle .malformed)⟩
  | fuel + 1, s => match s.step (fuel + 1) with
    | .error cause => ⟨(s.tokens.drop (s.count - s.settled)).reverse, some cause⟩
    | .ok (s, true) => run fuel s
    | .ok (s, false) => ⟨s.tokens.reverse, none⟩

end Scan

/-- Characters that may stand in a text. -/
def isAllowed (c : Char) : Bool :=
  let n := c.toNat
  n == 0x09 || n == 0x0A || n == 0x0D || (0x20 ≤ n && n ≤ 0x7E) || n == 0x85
    || (0xA0 ≤ n && n ≤ 0xD7FF) || (0xE000 ≤ n && n ≤ 0xFFFD) || 0x10000 ≤ n

def Tokens.ofText (text : String) : Tokens :=
  let chars := text.toList
  if chars.all isAllowed then Scan.run (chars.length + 2) (Scan.start chars)
  else ⟨[], some (.obstacle .malformed)⟩

end AdlTables.Yaml
