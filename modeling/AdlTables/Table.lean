import AdlTables.Column
import AdlTables.Constraint

/-! # Tables

The tables of a graph: one for each struct that is annotated as a table, in the order of their
names. A table that asks for an id as its key has one column of this name, the first of its own or,
if a field has a column so called, in the place of that field.
-/

namespace AdlTables

/-- A line of a table's body; a comment that is null is none. -/
structure ColumnLine where
  code : String
  comment : Value
deriving Repr, Inhabited

/-- All that is written about one table. -/
structure TableSchema where
  name : String
  moduleName : Value
  declName : Value
  lines : List ColumnLine
  foreignKeys : List ForeignKey
  indexes : List Index
  uniques : List Unique
  extraSql : List String
  primaryKey : List String
deriving Repr, Inhabited

def TableSchema.toValue (s : TableSchema) : Value := .mapping [
  (.text "name", .text s.name),
  (.text "module_name", s.moduleName),
  (.text "decl_name", s.declName),
  (.text "lines", .list (s.lines.map fun line =>
    .mapping [(.text "code", .text line.code), (.text "comment", line.comment)])),
  (.text "foreign_keys", .list (s.foreignKeys.map (·.toValue))),
  (.text "indexes", .list (s.indexes.map (·.toValue))),
  (.text "uniqueness_constraints", .list (s.uniques.map (·.toValue))),
  (.text "extra_sql", .texts s.extraSql),
  (.text "primary_key_columns", .texts s.primaryKey)]

/-- A struct that is to be a table. -/
structure TableDecl where
  origin : ScopedDecl
  fields : List Field
  request : TableRequest
  name : String
deriving Repr, Inhabited

namespace TableDecl

/-- The table that a declaration asks for; the annotation of anything but a struct is noted and
ignored. -/
def ofDecl (d : ScopedDecl) : Journaled (Option TableDecl) := do
  match d.decl.table, d.decl.body with
  | none, _ => return none
  | some request, .struct _ fields =>
    return some ⟨d, fields, request, ← d.decl.tableName⟩
  | some _, body =>
    let shown ← d.scopedName.say
    Journaled.note .warning ("Ignoring DbTable annotation on " ++ body.kindName ++ " " ++ shown)
    return none

def ofModule (entry : Value × Module) : Journaled (List TableDecl) := do
  return (← (← Graph.declsOf entry).mapM ofDecl).filterMap id

def idColumn : String := "id"

def fieldIsId (t : TableDecl) (columns : List String) : Bool :=
  t.request.withIdPrimaryKey && columns.contains idColumn

/-- The line of the id column. -/
def idCode (p : DialectProfile) : String :=
  idColumn ++ " " ++ p.idColumnType ++ " not null"

def fieldLine (g : Graph) (p : DialectProfile) (table : String) (isId : Bool) (field : Field)
    (column : String) : Journaled (ColumnLine × Option ForeignKey) := do
  let spec ← g.columnSpec p field.type
  let code := if isId && column == idColumn then idCode p else column ++ " " ++ spec.type
  let comment ← field.type.label .comment
  return (⟨code, comment⟩,
    spec.foreignKey.map fun target => ⟨table, column, target.table, target.column⟩)

/-- The columns of the primary key; the id is the key where it is asked for, whatever else is. -/
def primaryKey (t : TableDecl) : Journaled (List String) := do
  if t.request.withIdPrimaryKey then
    if !t.request.withPrimaryKey.isEmpty then
      Journaled.note .warning
        ("Table " ++ t.name ++ " requests both withIdPrimaryKey and withPrimaryKey; "
          ++ "using the synthetic id")
    return [idColumn]
  else columnsFor t.fields t.request.withPrimaryKey

/-- The line of a primary key, if there is one. -/
def keyLines (columns : List String) : List ColumnLine :=
  if columns.isEmpty then [] else [⟨"primary key(" ++ ",".intercalate columns ++ ")", .null⟩]

def schema (g : Graph) (p : DialectProfile) (t : TableDecl) : Journaled TableSchema := do
  let columns ← (t.fields.mapM Field.columnName : Except Fault (List String))
  let isId := t.fieldIsId columns
  if isId then
    Journaled.note .debug
      ("Table " ++ t.name ++ " declares its own id column, using it as the primary key")
  let idLines : List ColumnLine :=
    if t.request.withIdPrimaryKey && !isId then [⟨idCode p, .null⟩] else []
  let lines ← (t.fields.zip columns).mapM fun (field, column) =>
    fieldLine g p t.name isId field column
  let key ← t.primaryKey
  let indexes ← indexesOf t.name t.fields t.request
  let uniques ← uniquesOf t.name t.fields t.request
  return {
    name := t.name
    moduleName := t.origin.moduleName
    declName := t.origin.decl.name
    lines := idLines ++ lines.map (·.1) ++ keyLines key
    foreignKeys := lines.filterMap (·.2)
    indexes := indexes
    uniques := uniques
    extraSql := t.request.extraSql
    primaryKey := key }

end TableDecl

namespace Graph

/-- The tables of a graph in the order of their names; those of one name stay in the order of their
declarations. -/
def tables (g : Graph) : Journaled (List TableDecl) := do
  let modules ← Value.sortByKey g.modules
  let found := (← modules.mapM TableDecl.ofModule).flatten
  return found.mergeSort fun a b => a.name ≤ b.name

/-- The schema of a table, with notes of what is mapped to what. -/
def tableSchema (g : Graph) (p : DialectProfile) (t : TableDecl) : Journaled TableSchema := do
  let origin ← t.origin.scopedName.say
  Journaled.note .debug ("Mapping " ++ origin ++ " to table " ++ t.name)
  let schema ← t.schema g p
  let shown ← schema.toValue.say
  Journaled.note .debug ("Table " ++ schema.name ++ ": " ++ shown)
  return schema

def schemas (g : Graph) (p : DialectProfile) : Journaled (List TableSchema) := do
  let schemas ← (← g.tables).mapM (g.tableSchema p)
  Journaled.note .info
    ("Mapped " ++ toString schemas.length ++ " table(s) using the " ++ p.name ++ " dialect")
  return schemas

end Graph

end AdlTables
