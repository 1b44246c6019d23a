import AdlTables.Declaration

/-! # Standard modules

The declarations that schemas may refer to without loading them: the optional type, the types of
time, and the key and annotations of tables. A module of the same name that is loaded takes the
place of the one here.
-/

namespace AdlTables.Standard

/-- A declaration without annotations. -/
def declare (name : String) (body : Body) : Value × Declaration :=
  (.text name, ⟨.text name, body, [], none⟩)

/-- A field without annotations. -/
def field (name : String) (type : TypeExpr) : Field :=
  ⟨.text name, type, []⟩

/-- A module without imports. -/
def moduleOf (name : String) (decls : List (Value × Declaration)) : Module :=
  ⟨.text name, decls, [], []⟩

def text : TypeExpr := .primitive "String" []

def texts : TypeExpr := .primitive "Vector" [text]

def textLists : TypeExpr := .primitive "Vector" [texts]

/-- The optional type. -/
def sysTypes : Module := moduleOf "sys.types" [
  declare "Maybe" (.union [.text "T"] [
    field "nothing" (.primitive "Void" []), field "just" (.parameter "T")])]

/-- The types of time. -/
def common : Module := moduleOf "common" [
  declare "Instant" (.newtype [] (.primitive "Int64" [])),
  declare "LocalDate" (.newtype [] text),
  declare "LocalDateTime" (.newtype [] text)]

/-- The key and the annotations of tables. -/
def commonDb : Module := moduleOf "common.db" [
  declare "DbKey" (.newtype [.text "T"] text),
  declare "DbTable" (.struct [] [
    field "tableName" text,
    field "withIdPrimaryKey" (.primitive "Bool" []),
    field "withPrimaryKey" texts,
    field "indexes" textLists,
    field "uniquenessConstraints" textLists,
    field "extraSql" texts]),
  declare "DbColumnName" (.typeAlias [] text)]

def modules : List (Value × Module) := [sysTypes, common, commonDb].map fun m => (m.name, m)

end AdlTables.Standard
