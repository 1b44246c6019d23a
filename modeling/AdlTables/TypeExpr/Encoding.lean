import AdlTables.TypeExpr
import AdlTables.Value.Access

/-! # Encoded names, branches and types

How scoped names, branches of unions and type expressions are written in a document. A scoped name
is an object of its two parts or a text with a point before the name. A branch is an object with
the branch as its only key, an object that names its kind, or a text for a branch without payload.
-/

namespace AdlTables

namespace ScopedName

/-- Characters split at the last point: those before it, if there is one, and those behind it. -/
def splitLast (chars : List Char) : List Char × List Char :=
  let name := (chars.reverse.takeWhile (· != '.')).reverse
  let before := (chars.reverse.dropWhile (· != '.')).drop 1
  (before.reverse, name)

def ofValue (v : Value) : Except Fault ScopedName :=
  match v.bare with
  | .text s =>
    let (moduleName, name) := splitLast s.toList
    if moduleName.isEmpty then Fault.raise (.nameWithoutModule s)
    else .ok (ofTexts (String.ofList moduleName) (String.ofList name))
  | .mapping entries =>
    match Value.find? entries "moduleName", Value.find? entries "name" with
    | some moduleName, some name => .ok ⟨moduleName, name⟩
    | _, _ => Fault.raise (.invalidScopedName v)
  | _ => Fault.raise (.invalidScopedName v)

end ScopedName

/-- A branch of a union with its payload. -/
structure Branch where
  kind : Value
  payload : Value

namespace Branch

def ofValue (v : Value) : Except Fault Branch :=
  match v.bare with
  | .text _ => .ok ⟨v, .null⟩
  | .mapping entries =>
    match Value.find? entries "kind" with
    | some kind => .ok ⟨kind, (Value.find? entries "value").getD .null⟩
    | none => match entries with
      | [(kind, payload)] => .ok ⟨kind, payload⟩
      | _ => Fault.raise (.invalidUnion v)
  | _ => Fault.raise (.invalidUnion v)

def typeRef (b : Branch) : Except Fault TypeRef :=
  if b.kind.isText "primitive" then .ok (.primitive b.payload)
  else if b.kind.isText "typeParam" then .ok (.parameter b.payload)
  else if b.kind.isText "reference" then do return .reference (← ScopedName.ofValue b.payload)
  else Fault.raise (.unknownTypeRef b.kind)

end Branch

namespace TypeExpr

/-- The arguments of a type whose parameters are no list: there are none if these are empty, and
otherwise the first thing they run through is not a type. -/
def unlisted (whole parameters : Value) : Except Fault (List TypeExpr) :=
  match parameters.items with
  | .ok [] => .ok []
  | .ok (first :: _) => Fault.raise (.invalidTypeExpr first)
  | .error _ => Fault.raise (.invalidTypeExpr whole)

/-- The arguments that the parameters of a type encode; parameters that are not there are none. -/
def argsOf (typeOf : Value → Except Fault TypeExpr) (whole : Value) :
    Option Value → Except Fault (List TypeExpr)
  | none => .ok []
  | some parameters => match parameters.bare with
    | .list items => items.mapM typeOf
    | _ => unlisted whole parameters

/-- The type expression that a value encodes, with types inside types no deeper than `depth`. -/
def ofValueWithin : Nat → Value → Except Fault TypeExpr
  | 0, _ => Fault.breakDown .tooDeep
  | depth + 1, v => match v.bare with
    | .mapping entries =>
      match Value.find? entries "typeRef" with
      | none => Fault.raise (.invalidTypeExpr v)
      | some encoded => do
        let branch ← Branch.ofValue encoded
        let args ← argsOf (ofValueWithin depth) v (Value.find? entries "parameters")
        return node (← branch.typeRef) args
    | _ => Fault.raise (.invalidTypeExpr v)

/-- The type expression that a value encodes. Types inside types that go deeper than the value has
parts come back to one that they are in, and have no end. -/
def ofValue (v : Value) : Except Fault TypeExpr :=
  ofValueWithin (v.size + 1) v

end TypeExpr

end AdlTables
