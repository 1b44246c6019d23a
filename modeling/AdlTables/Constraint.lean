import AdlTables.Naming
import AdlTables.Value.Print

/-! # Constraints

The named constraints of a table. A foreign key is named for its table and column; indexes and
uniqueness constraints are numbered from one within their table.
-/

namespace AdlTables

/-- A foreign key of a table. -/
structure ForeignKey where
  table : String
  column : String
  targetTable : String
  targetColumn : String
deriving DecidableEq, Repr

namespace ForeignKey

def name (k : ForeignKey) : String :=
  k.table ++ "_" ++ k.column ++ "_fk"

def toValue (k : ForeignKey) : Value := .mapping [
  (.text "name", .text k.name),
  (.text "table", .text k.table),
  (.text "column", .text k.column),
  (.text "target_table", .text k.targetTable),
  (.text "target_column", .text k.targetColumn)]

end ForeignKey

/-- The entries that a named list of columns shows. -/
def columnsValue (name table : String) (columns : List String) : Value := .mapping [
  (.text "name", .text name),
  (.text "table", .text table),
  (.text "columns", .texts columns)]

/-- An index of a table. -/
structure Index where
  name : String
  table : String
  columns : List String
deriving DecidableEq, Repr

namespace Index

def numbered (table number : String) (columns : List String) : Index :=
  ⟨table ++ "_" ++ number ++ "_idx", table, columns⟩

def toValue (i : Index) : Value :=
  columnsValue i.name i.table i.columns

end Index

/-- A uniqueness constraint of a table. -/
structure Unique where
  name : String
  table : String
  columns : List String
deriving DecidableEq, Repr

namespace Unique

def numbered (table number : String) (columns : List String) : Unique :=
  ⟨table ++ "_" ++ number ++ "_con", table, columns⟩

def toValue (u : Unique) : Value :=
  columnsValue u.name u.table u.columns

end Unique

def columnsFor (fields : List Field) (names : List String) : Except Fault (List String) :=
  names.mapM (Field.columnFor fields)

/-- The column lists of an annotation, each with its number. -/
def numberedColumns (fields : List Field) (lists : List (List String)) :
    Except Fault (List (Nat × List String)) := do
  let columns ← lists.mapM (columnsFor fields)
  return columns.mapIdx fun i cs => (i + 1, cs)

/-- The indexes that an annotation asks for. -/
def indexesOf (table : String) (fields : List Field) (a : TableRequest) :
    Except Fault (List Index) := do
  return (← numberedColumns fields a.indexes).map fun (i, cs) => .numbered table (toString i) cs

/-- The uniqueness constraints that an annotation asks for. -/
def uniquesOf (table : String) (fields : List Field) (a : TableRequest) :
    Except Fault (List Unique) := do
  return (← numberedColumns fields a.uniquenessConstraints).map fun (i, cs) =>
    .numbered table (toString i) cs

end AdlTables
