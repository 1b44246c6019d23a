import AdlTables.Fault
import AdlTables.Value.Items

/-! # Reading values

The ways in which a decoder asks a value for its parts, with the breakdown that follows where the
value is of another kind.
-/

namespace AdlTables.Value

def member (v : Value) (key : String) : Except Fault Value :=
  match v.bare with
  | mapping entries => match find? entries key with
    | some w => .ok w
    | none => Fault.breakDown (.missingKey key)
  | _ => Fault.breakDown .wrongKind

/-- The value under a key that may be absent; only a mapping can be asked for it. -/
def option (v : Value) (key : String) : Except Fault (Option Value) :=
  match v.bare with
  | mapping entries => .ok (find? entries key)
  | _ => Fault.breakDown .noMember

/-- The entries of a value, which has to be a mapping. -/
def entries (v : Value) : Except Fault (List (Value × Value)) :=
  match v.bare with
  | mapping entries => .ok entries
  | _ => Fault.breakDown .noMember

/-- What a value runs through. -/
def items (v : Value) : Except Fault (List Value) :=
  match v.items? with
  | some items => .ok items
  | none => Fault.breakDown .wrongKind

/-- Whether characters occur one after another inside others. -/
def occursIn (part : List Char) : List Char → Bool
  | [] => part.isEmpty
  | c :: rest => part.isPrefixOf (c :: rest) || occursIn part rest

/-- Whether a value holds a text: as a key, as an item, or as a part of a longer text. -/
def holds (v : Value) (s : String) : Except Fault Bool :=
  match v.bare with
  | mapping entries => .ok (find? entries s).isSome
  | list items => .ok (items.any (·.isText s))
  | set items => .ok (items.any (·.isText s))
  | pair key value => .ok (key.isText s || value.isText s)
  | text t => .ok (occursIn s.toList t.toList)
  | _ => Fault.breakDown .wrongKind

/-- The text of a value, or of bytes that encode one, or what is wrong with it. -/
def readText : Value → Except String String
  | text s => .ok s
  | bytes bs => match String.fromUTF8? ⟨bs.toArray⟩ with
    | some s => .ok s
    | none =>
      .error "Input should be a valid string, unable to parse raw data as a unicode string"
  | _ => .error "Input should be a valid string"

/-- The form of a value in running text, if it can be written. -/
def say (v : Value) : Except Fault String :=
  if v.isSayable then .ok v.display else Fault.breakDown .badValue

@[simp] theorem say_text (s : String) : (text s).say = .ok s := rfl

end AdlTables.Value
