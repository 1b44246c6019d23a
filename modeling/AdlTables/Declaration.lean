import AdlTables.TypeExpr
import AdlTables.Annotation.Encoding
import AdlTables.Value.Reading

/-! # Declarations

What a module declares: structs and unions of fields, and new names for types. A declaration that is
annotated as a table carries the annotation in its parsed form. `Module.mapValues` changes the
values that a module has from its document, and `Module.inReading` makes a module that of a reading.
-/

namespace AdlTables

/-- A named member of a struct or union. -/
structure Field where
  name : Value
  type : TypeExpr
  annotations : Annotations
deriving Repr, Inhabited

def Field.columnOverride? (f : Field) : Option String :=
  (Entries.find? f.annotations ScopedName.dbColumnName).bind Value.text?

/-- What a declaration says. -/
inductive Body where
  | struct (params : List Value) (fields : List Field)
  | union (params : List Value) (fields : List Field)
  | newtype (params : List Value) (type : TypeExpr)
  | typeAlias (params : List Value) (type : TypeExpr)
deriving Repr, Inhabited

namespace Body

def kindName : Body → String
  | struct _ _ => "struct"
  | union _ _ => "union"
  | newtype _ _ => "newtype"
  | typeAlias _ _ => "typealias"

def params : Body → List Value
  | struct params _ => params
  | union params _ => params
  | newtype params _ => params
  | typeAlias params _ => params

/-- The type that a declaration is another name for. -/
def renamed? : Body → Option (List Value × TypeExpr)
  | newtype params type => some (params, type)
  | typeAlias params type => some (params, type)
  | _ => none

/-- The fields of a struct or union. -/
def fields? : Body → Option (List Field)
  | struct _ fields => some fields
  | union _ fields => some fields
  | _ => none

end Body

/-- Whether no field carries a payload. -/
def isEnumeration (fields : List Field) : Bool :=
  fields.all fun f => match f.type.head with
    | .primitive name => name.isText "Void"
    | _ => false

/-- A named declaration. -/
structure Declaration where
  name : Value
  body : Body
  /-- The annotations other than the one that makes the declaration a table. -/
  annotations : Annotations
  table : Option TableRequest
deriving Repr, Inhabited

/-- A module: its declarations by their keys, and the names of the modules it imports. -/
structure Module where
  name : Value
  decls : List (Value × Declaration)
  imports : List Value
  annotations : Annotations
deriving Repr, Inhabited

/-- A name with its parts changed. -/
def ScopedName.mapValues (f : Value → Value) (n : ScopedName) : ScopedName :=
  ⟨f n.moduleName, f n.name⟩

/-- A reference with its names changed. -/
def TypeRef.mapValues (f : Value → Value) : TypeRef → TypeRef
  | primitive name => primitive (f name)
  | parameter name => parameter (f name)
  | reference name => reference (name.mapValues f)

mutual

/-- A type with its names changed. -/
def TypeExpr.mapValues (f : Value → Value) : TypeExpr → TypeExpr
  | .node head args => .node (head.mapValues f) (TypeExpr.mapAllValues f args)

/-- Types with their names changed. -/
def TypeExpr.mapAllValues (f : Value → Value) : List TypeExpr → List TypeExpr
  | [] => []
  | t :: rest => TypeExpr.mapValues f t :: TypeExpr.mapAllValues f rest

end

/-- Annotations with their names and payloads changed. -/
def Annotations.mapValues (f : Value → Value) (annotations : Annotations) : Annotations :=
  List.map (fun (name, payload) => (name.mapValues f, f payload)) annotations

def Field.mapValues (f : Value → Value) (x : Field) : Field :=
  ⟨f x.name, x.type.mapValues f, x.annotations.mapValues f⟩

def Body.mapValues (f : Value → Value) : Body → Body
  | struct params fields => struct (params.map f) (fields.map (Field.mapValues f))
  | union params fields => union (params.map f) (fields.map (Field.mapValues f))
  | newtype params type => newtype (params.map f) (type.mapValues f)
  | typeAlias params type => typeAlias (params.map f) (type.mapValues f)

def Declaration.mapValues (f : Value → Value) (d : Declaration) : Declaration :=
  { d with name := f d.name, body := d.body.mapValues f, annotations := d.annotations.mapValues f }

def Module.mapValues (f : Value → Value) (m : Module) : Module where
  name := f m.name
  decls := m.decls.map fun (key, d) => (key, d.mapValues f)
  imports := m.imports.map f
  annotations := m.annotations.mapValues f

def Module.inReading (r : Reading) (m : Module) : Module :=
  let read := m.mapValues (Value.inReading r)
  { read with decls := read.decls.map fun (key, d) => (key.inReading r, d) }

end AdlTables
