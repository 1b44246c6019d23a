import AdlTables.SnakeCase
import AdlTables.Declaration

/-! # Names of tables and columns

Tables and columns are called what their annotation says, and otherwise by the name of the
declaration or field in snake case.
-/

namespace AdlTables

def Declaration.tableName (d : Declaration) : Except Fault String :=
  match d.table.bind (·.tableName) with
  | some name => if name = "" then SnakeCase.ofValue d.name else .ok name
  | none => SnakeCase.ofValue d.name

def Field.columnName (f : Field) : Except Fault String :=
  match f.columnOverride? with
  | some name => .ok name
  | none => SnakeCase.ofValue f.name

def Field.named? (fields : List Field) (name : Value) : Option Field :=
  fields.find? fun f => f.name.same name

/-- The column that a name stands for: that of the field of this name, else the one so called. -/
def Field.columnFor (fields : List Field) (name : String) : Except Fault String :=
  match Field.named? fields (.text name) with
  | some f => f.columnName
  | none => .ok name

end AdlTables
