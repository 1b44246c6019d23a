import AdlTables.Value
import AdlTables.Decimal.Shortest
import AdlTables.Text.Number
import AdlTables.Text.Quoted

/-! # Values in messages

How a value is written inside a message: `literal` shows its kind (texts are quoted), `display`
shows a text or a timestamp as it is and anything else as its literal. A value that holds itself is
cut short there. A whole number with too many digits cannot be written at all; `isSayable` says that
a value holds none.
-/

namespace AdlTables.Value

/-- What stands for a value inside itself. -/
def ellipsis : Value → String
  | list _ => "[...]"
  | pair _ _ => "(...)"
  | _ => "\x7b...\x7d"

mutual

/-- The literal form of a value inside values in places, for which short forms stand. -/
def literalIn (around : List (Nat × String)) : Value → String
  | null => "None"
  | bool b => if b then "True" else "False"
  | int i => toString i
  | float x => Decimal.write x
  | nan _ => "nan"
  | text s => Text.quoted s
  | bytes bs => Text.quotedBytes bs
  | time t => t.literal
  | list items => "[" ++ literalItems around items ++ "]"
  | mapping entries => "\x7b" ++ literalEntries around entries ++ "\x7d"
  | set items =>
    if items.isEmpty then "set()" else "\x7b" ++ literalItems around items ++ "\x7d"
  | pair key value => "(" ++ literalIn around key ++ ", " ++ literalIn around value ++ ")"
  | shared place v => match around.lookup place with
    | some form => form
    | none => literalIn ((place, v.ellipsis) :: around) v
  | again place => (around.lookup place).getD "..."

/-- Literal forms with commas between them. -/
def literalItems (around : List (Nat × String)) : List Value → String
  | [] => ""
  | [v] => literalIn around v
  | v :: rest => literalIn around v ++ ", " ++ literalItems around rest

/-- Keys and values in literal form, with commas between the entries. -/
def literalEntries (around : List (Nat × String)) : List (Value × Value) → String
  | [] => ""
  | [(k, v)] => literalIn around k ++ ": " ++ literalIn around v
  | (k, v) :: rest =>
    literalIn around k ++ ": " ++ literalIn around v ++ ", " ++ literalEntries around rest

end

def literal (v : Value) : String :=
  v.literalIn []

/-- The form of a value in running text. -/
def display : Value → String
  | text s => s
  | time t => t.display
  | v => v.literal

@[simp] theorem display_text (s : String) : (text s).display = s := rfl

def texts (items : List String) : Value :=
  list (items.map text)

/-- The first number that has too many digits to be written. -/
def numberLimit : Nat := Decimal.tenTo Text.mostDigits

mutual

/-- Whether every number in a value can be written. -/
def isSayable : Value → Bool
  | int i => i.natAbs < numberLimit
  | list items => areSayable items
  | mapping entries => areEntriesSayable entries
  | set items => areSayable items
  | pair key value => isSayable key && isSayable value
  | shared _ v => isSayable v
  | _ => true

/-- Whether every number in values can be written. -/
def areSayable : List Value → Bool
  | [] => true
  | v :: rest => isSayable v && areSayable rest

/-- Whether every number in entries can be written. -/
def areEntriesSayable : List (Value × Value) → Bool
  | [] => true
  | (key, v) :: rest => isSayable key && isSayable v && areEntriesSayable rest

end

end AdlTables.Value
