import AdlTables.Declaration.Encoding
import AdlTables.Json.Reader
import AdlTables.Path
import AdlTables.Text.Case
import AdlTables.Yaml.Reader

/-! # Documents

A file's content as the value of a document, and the modules that such a value holds: either it is a
module itself, or its entries are modules by name. A mapping that gives no name of its own gets its
key as its name, in all places of the document that name the mapping.
-/

namespace AdlTables.Document

/-- Characters with every way of ending a line made a newline. -/
def unifyLines : List Char → List Char
  | [] => []
  | '\r' :: '\n' :: rest => '\n' :: unifyLines rest
  | '\r' :: rest => '\n' :: unifyLines rest
  | c :: rest => c :: unifyLines rest

/-- The text that bytes encode. -/
def textOf (content : ByteArray) : Except Cause String :=
  match String.fromUTF8? content with
  | some s => .ok (String.ofList (unifyLines s.toList))
  | none => .error (.mishap .notText)

/-- Whether the content of a file is written as JSON; all else is YAML. -/
def isJson (p : Path) : Bool :=
  Text.lower p.suffix == ".json"

def ofContent (json : Bool) (content : ByteArray) : Except Cause Value := do
  let s ← textOf content
  if json then Json.read s else Yaml.read s

/-- A module's value with a name put in if it has none. -/
def withName (name v : Value) : Value :=
  match v with
  | .mapping entries =>
    if (Value.find? entries "name").isSome then v
    else .mapping (entries ++ [(.text "name", name)])
  | _ => v

def lacksName (v : Value) : Bool :=
  match v.bare with
  | .mapping entries => (Value.find? entries "name").isNone
  | _ => false

/-- The place of a value that is in several places, if it is one. -/
def place? : Value → Option Nat
  | .shared place _ => some place
  | _ => none

/-- The modules of entries, behind those of entries in front. A name that a mapping gets is in it
wherever it is; the outermost mapping cannot grow while its entries are run through. -/
def modulesOf (whole : Option Nat) (done : List Module) :
    List (Value × Value) → Except Fault (List Module)
  | [] => .ok done
  | (key, v) :: rest => do
    if lacksName v then
      match place? v with
      | none => modulesOf whole (done ++ [← Module.ofValue (withName key v)]) rest
      | some place =>
        let change := Value.changeAt place (withName key)
        let m ← Module.ofValue (change v)
        if whole = some place then Fault.breakDown .grows
        else
          modulesOf whole (done.map (Module.mapValues change) ++ [m])
            (rest.map fun (key, v) => (key, change v))
    else modulesOf whole (done ++ [← Module.ofValue v]) rest
termination_by entries => entries.length

/-- The modules of a document, none if it is no mapping. -/
def modules? (v : Value) : Except Fault (Option (List Module)) :=
  match v.bare with
  | .mapping entries =>
    if (Value.find? entries "decls").isSome then do return some [← Module.ofValue v]
    else do return some (← modulesOf (place? v) [] entries)
  | _ => .ok none

end AdlTables.Document
