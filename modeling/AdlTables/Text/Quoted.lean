import AdlTables.Text.Printable

/-! # Quoted text

The quoted form of a text inside a message. Single quotes are used unless the text holds one and
holds no double quote; the quote in use and the backslash are escaped, and so is every character
that is not printable.
-/

namespace AdlTables.Text

/-- The digits of a number in base sixteen, small letters, padded with zeros to a width. -/
def hex (width n : Nat) : String :=
  let digits := (Nat.toDigits 16 n)
  String.ofList (List.replicate (width - digits.length) '0' ++ digits)

namespace Quoted

def single : Char := '\x27'

def double : Char := '\x22'

def quoteFor (chars : List Char) : Char :=
  if chars.contains single && !chars.contains double then double else single

/-- The escape of a character that is not printable, as short as its code point allows. -/
def escapeCode (c : Char) : String :=
  if c.toNat < 0x100 then "\\x" ++ hex 2 c.toNat
  else if c.toNat < 0x10000 then "\\u" ++ hex 4 c.toNat
  else "\\U" ++ hex 8 c.toNat

def write (quote c : Char) : String :=
  if c = quote || c = '\\' then String.ofList ['\\', c]
  else if c = '\n' then "\\n"
  else if c = '\r' then "\\r"
  else if c = '\t' then "\\t"
  else if isPrintable c then String.singleton c
  else escapeCode c

end Quoted

def quoted (s : String) : String :=
  let quote := Quoted.quoteFor s.toList
  String.singleton quote ++ String.join (s.toList.map (Quoted.write quote))
    ++ String.singleton quote

/-- Bytes between quotes, behind the letter that marks them; only ASCII stands for itself. -/
def quotedBytes (bytes : List UInt8) : String :=
  let chars := bytes.map fun b => Char.ofNat b.toNat
  let quote := Quoted.quoteFor chars
  let write (c : Char) : String :=
    if c.toNat < 0x7F then Quoted.write quote c else Quoted.escapeCode c
  "b" ++ String.singleton quote ++ String.join (chars.map write) ++ String.singleton quote

end AdlTables.Text
