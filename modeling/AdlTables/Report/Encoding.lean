import AdlTables.TypeExpr.Print
import AdlTables.Value.Access

/-! # Encoded reports

A report from a message and from arguments by name. Each category has arguments of its own that go
into the context; a general report takes a code instead, and no other argument.
-/

namespace AdlTables.Report

/-- The arguments of a category that the context shows, each with the name it has there. -/
def particulars : Category → List (String × String)
  | .general => []
  | .configuration => [("config_file", "config_file")]
  | .load => [("path", "path"), ("module", "module")]
  | .reference => []
  | .annotations => [("declaration", "declaration"), ("annotation", "annotation")]
  | .expansion => [("type_expr", "type_expr"), ("chain", "expansion_chain")]
  | .shape => [("type_expr", "type_expr")]
  | .generation => [("output_path", "output_path"), ("table", "table")]

/-- The form of an argument in the context: the steps of a chain are joined. -/
def shownIn (name : String) (v : Value) : Except Fault Value :=
  if name = "chain" && !v.isEmpty then do
    return .text (" -> ".intercalate (← TypeExpr.allTexts (← v.items)))
  else .ok v

/-- The entries of a context, of which the keys are texts; an empty value is a context without
entries, and other values are none. -/
def contextOf (v : Value) : Option (List (String × Value)) :=
  match v with
  | .mapping entries =>
    some (entries.filterMap fun (key, v) => key.text?.map fun name => (name, v))
  | _ => if v.isEmpty then some [] else none

/-- Whether particulars can be put into a value. -/
def isContext : Value → Bool
  | .mapping _ => true
  | _ => false

def generalArguments : List String := ["context", "suggestions", "error_code"]

/-- The arguments that come in front of all others, and without a name. -/
def placed : List String := ["self", "message"]

def takes (category : Category) (names : List String) : Bool :=
  if category = .general then names.all generalArguments.contains
  else !names.any placed.contains

/-- The particulars that arguments give, those of a reference in one text. -/
def particularsOf (category : Category) (argument : String → Value) :
    Except Fault (List (String × Value)) := do
  let shown ← (particulars category).mapM fun (name, key) => do
    return (key, ← shownIn name (argument name))
  let given := shown.filter fun entry => !entry.2.isEmpty
  match category, argument "scoped_name" with
  | .reference, .null => return given
  | .reference, v => return given ++ [("scoped_name", .text v.display)]
  | _, _ => return given

/-- A report from its message and its arguments, which has to have a text. -/
def ofArguments (category : Category) (message : Value) (arguments : List (String × Value)) :
    Except Fault Report := do
  let argument (name : String) : Value := (arguments.lookup name).getD .null
  if !takes category (arguments.map (·.1)) then Fault.breakDown .wrongKind
  let given := (arguments.lookup "context").getD (.mapping [])
  let shown ← particularsOf category argument
  if !shown.isEmpty && !isContext given then Fault.breakDown .wrongKind
  let suggestions := argument "suggestions"
  match contextOf given with
  | none => Fault.breakDown .noMember
  | some context =>
    if !suggestions.isEmpty then
      let _ ← suggestions.items
    match message with
    | .text message =>
      return {
        category := category
        message := message
        context := shown.foldl (fun done entry => Entries.put done entry.1 entry.2) context
        suggestions := if suggestions.isEmpty then .texts category.suggestions else suggestions
        code := if category = .general then argument "error_code"
          else (category.code?.map Value.text).getD .null }
    | _ => Fault.breakDown .wrongKind

end AdlTables.Report
