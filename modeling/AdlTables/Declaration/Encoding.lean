import AdlTables.Declaration

/-! # Encoded declarations and modules

How declarations and modules are written in a document. A part that is missing or of the wrong kind
is reported for the declaration or the module that lacks it; annotations and imports are read
outside that net, so that what goes wrong with them is not taken for a missing part.
-/

namespace AdlTables

/-- The field that a value encodes in a declaration of the given name. -/
def Field.ofValue (owner v : Value) : Except Fault Field := do
  let annotations ← Annotations.ofValue ((← v.option "annotations").getD .null)
  let name ← v.member "name"
  if let some payload := Entries.find? annotations ScopedName.dbColumnName then
    let _ ← columnNameOf payload (.text ((← owner.say) ++ "." ++ (← name.say)))
  let type ← TypeExpr.ofValue (← v.member "typeExpr")
  return ⟨name, type, annotations⟩

/-- The fields of a declaration of the given name. -/
def Field.listOfValue (owner v : Value) : Except Fault (List Field) := do
  (← v.items).mapM (Field.ofValue owner)

/-- The body that a branch encodes for a declaration of the given name. -/
def Body.ofBranch (owner : Value) (branch : Branch) : Except Fault Body := do
  let params ← ((← branch.payload.option "typeParams").getD (.list [])).items
  if branch.kind.isText "struct_" then
    return .struct params (← Field.listOfValue owner (← branch.payload.member "fields"))
  else if branch.kind.isText "union_" then
    return .union params (← Field.listOfValue owner (← branch.payload.member "fields"))
  else if branch.kind.isText "newtype_" then
    return .newtype params (← TypeExpr.ofValue (← branch.payload.member "typeExpr"))
  else if branch.kind.isText "type_" then
    return .typeAlias params (← TypeExpr.ofValue (← branch.payload.member "typeExpr"))
  else Fault.raise (.unknownDeclaration branch.kind owner)

namespace Declaration

def parts (v : Value) : Except Fault (Value × Body) := do
  let name ← v.member "name"
  let branch ← Branch.ofValue (← v.member "type_")
  return (name, ← Body.ofBranch name branch)

def ofValue (v : Value) : Except Fault Declaration :=
  match parts v with
  | .error (.mishap m) =>
    if m.isLack then do
      let name := (← v.option "name").getD (.text "?")
      Fault.raise (.invalidDeclaration name m)
    else Fault.breakDown m
  | .error fault => .error fault
  | .ok (name, body) => do
    let annotations ← Annotations.ofValue ((← v.option "annotations").getD .null)
    let table ← match Entries.find? annotations ScopedName.dbTable with
      | some payload => do pure (some (← TableRequest.ofValue payload name))
      | none => pure none
    return ⟨name, body, Entries.erase annotations ScopedName.dbTable, table⟩

end Declaration

namespace Module

/-- Declarations with one more, which has to stand under a key. -/
def insert (done : List (Value × Declaration)) (key : Value) (d : Declaration) :
    Except Fault (List (Value × Declaration)) :=
  if key.key?.isSome then .ok (Entries.put done key d) else Fault.breakDown .wrongKind

def declsOf (done : List (Value × Declaration)) :
    List (Value × Value) → Except Fault (List (Value × Declaration))
  | [] => .ok done
  | (key, v) :: rest => do declsOf (← insert done key (← Declaration.ofValue v)) rest

def parts (v : Value) : Except Fault (Value × List (Value × Declaration)) := do
  let name ← v.member "name"
  let entries ← ((← v.option "decls").getD (.mapping [])).entries
  return (name, ← declsOf [] entries)

/-- The name of the module that an import names; other imports name none. -/
def importOf (v : Value) : Except Fault Value :=
  match v with
  | .text _ => .ok v
  | _ => do
    let branch ← Branch.ofValue v
    if branch.kind.isText "moduleName" then return branch.payload
    else if branch.kind.isText "scopedName" then
      return (← ScopedName.ofValue branch.payload).moduleName
    else return .null

def importsOf (v : Value) : Except Fault (List Value) := do
  let names ← (← v.items).mapM importOf
  return names.filter fun name => !name.isEmpty

def ofValue (v : Value) : Except Fault Module :=
  match parts v with
  | .error (.mishap m) =>
    if m.isLack then Fault.raise (.invalidModule v) else Fault.breakDown m
  | .error fault => .error fault
  | .ok (name, decls) => do
    let imports ← importsOf ((← v.option "imports").getD (.list []))
    let annotations ← Annotations.ofValue ((← v.option "annotations").getD .null)
    return ⟨name, decls, imports, annotations⟩

end Module

end AdlTables
