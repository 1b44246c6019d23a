import AdlTables.Fault
import AdlTables.Text.Number
import AdlTables.Yaml.Cursor
import AdlTables.Yaml.Token

/-! # Marks in the text

Anchors, aliases, tags and directives of a YAML text.
-/

namespace AdlTables.Yaml.Mark

open Cause (malformed orMalformed)

/-- Letters, digits and the two signs that names are made of. -/
def isWord (c : Char) : Bool :=
  ('0' ≤ c && c ≤ '9') || ('A' ≤ c && c ≤ 'Z') || ('a' ≤ c && c ≤ 'z') || c == '-' || c == '_'

/-- A name, which is not empty. -/
def word (c : Cursor) : Option (String × Cursor) :=
  let (chars, c) := c.span isWord
  if chars.isEmpty then none else some (String.ofList chars, c)

/-- Whether a line ends here, or blanks follow. -/
def endsHere (c : Cursor) : Bool :=
  c.sees 0 true fun x => x == ' ' || isBreak x

/-- The name behind the sign of an anchor or alias. -/
def reference (c : Cursor) : Option (String × Cursor) := do
  let (name, c) ← word c.next
  if c.sees 0 true fun x => isGap x || "?:,]\x7d%@\x60".toList.contains x then return (name, c)
  else none

def isTagChar (c : Char) : Bool :=
  isWord c || "-;/?:@&=+$,_.!~*'()[]".toList.contains c

/-- The bytes that signs of per cent give in hexadecimal. -/
def bytes : Nat → Cursor → Option (List UInt8 × Cursor)
  | 0, _ => none
  | fuel + 1, c => match c.rest with
    | '%' :: a :: b :: _ => do
      let n ← Text.number? 16 [a, b]
      let (more, c) ← bytes fuel (c.skip 3)
      return (UInt8.ofNat n :: more, c)
    | '%' :: _ => none
    | _ => some ([], c)

def tagParts : Nat → List Char → Cursor → Option (List Char × Cursor)
  | 0, _, _ => none
  | fuel + 1, done, c => match c.peek with
    | some '%' => do
      let (bs, c) ← bytes (c.rest.length + 1) c
      let text ← String.fromUTF8? ⟨bs.toArray⟩
      tagParts fuel (done ++ text.toList) c
    | some x => if isTagChar x then tagParts fuel (done ++ [x]) c.next else some (done, c)
    | none => some (done, c)

/-- The text of a tag, which is not empty. -/
def tagText (c : Cursor) : Option (String × Cursor) := do
  let (chars, c) ← tagParts (c.rest.length + 1) [] c
  if chars.isEmpty then none else return (String.ofList chars, c)

/-- The handle in front of a tag, between its signs. -/
def handle (c : Cursor) : Option (String × Cursor) :=
  if c.peek != some '!' then none
  else
    let (chars, behind) := c.next.span isWord
    if behind.peek = some '!' then some (String.ofList ('!' :: chars ++ ['!']), behind.next)
    else if chars.isEmpty && behind.peek = some ' ' then some ("!", behind) else none

/-- Whether a second sign follows before the next gap. -/
def hasHandle (c : Cursor) : Bool :=
  (c.rest.takeWhile fun x => x != ' ' && !isBreak x).contains '!'

def tag (c : Cursor) : Option (Token × Cursor) := do
  let (token, c) ←
    if c.sees 1 false (· == '<') then do
      let (suffix, c) ← tagText (c.skip 2)
      if c.peek = some '>' then some (Token.tag none suffix, c.next) else none
    else if c.gapAt 1 then some (Token.tag none "!", c.next)
    else do
      let (start, c) ← if hasHandle c.next then handle c else some ("!", c.next)
      let (suffix, c) ← tagText c
      some (Token.tag (some start) suffix, c)
  if endsHere c then return (token, c) else none

/-- The place behind the blanks and the comment at the end of a directive's line. -/
def endLine (c : Cursor) : Option Cursor :=
  let c := c.skipComment
  match c.lineBreak? with
  | some (_, c) => some c
  | none => if c.rest.isEmpty then some c else none

def versionPart (c : Cursor) : Except Cause (Nat × Cursor) :=
  let (digits, c) := c.span Text.isDigit
  if digits.isEmpty then malformed
  else if digits.length > Text.mostDigits then Cause.breakDown .badValue
  else .ok (Text.natural digits, c)

/-- The two numbers of a version. -/
def version (c : Cursor) : Except Cause (Directive × Cursor) := do
  let (major, c) ← versionPart (c.span (· == ' ')).2
  if c.peek != some '.' then malformed
  else
    let (minor, c) ← versionPart c.next
    if endsHere c then return (.version major minor, c) else malformed

/-- The handle that a directive defines, and what it stands for. -/
def definition (c : Cursor) : Option (Directive × Cursor) := do
  let (name, c) ← handle (c.span (· == ' ')).2
  if c.peek != some ' ' then none
  else
    let (start, c) ← tagText (c.span (· == ' ')).2
    if endsHere c then return (.handle name start, c) else none

def directive (c : Cursor) : Except Cause (Token × Cursor) := do
  let (name, c) ← orMalformed (word c.next)
  if !endsHere c then malformed
  else
    let (d, c) ←
      if name = "YAML" then version c
      else if name = "TAG" then orMalformed (definition c)
      else .ok (.other, (c.span (!isBreak ·)).2)
    return (.directive d, ← orMalformed (endLine c))

end AdlTables.Yaml.Mark
