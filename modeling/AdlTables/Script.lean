import AdlTables.Table

/-! # Scripts

The SQL text of tables: first the tables, then what refers to them, so that every foreign key, index
and uniqueness constraint comes after the last table, and at last the further statements. In the
body of a table each line but the last ends in a comma, and comments stand in one column behind
lines that are not too long.
-/

namespace AdlTables

namespace ColumnLine

/-- The width that a line is padded to before its comment. -/
def commentColumn : Nat := 36

/-- Text padded with spaces on the right. -/
def padRight (width : Nat) (s : String) : String :=
  s ++ String.ofList (List.replicate (width - s.length) ' ')

/-- A line with its comment, after a comma unless it is the last. -/
def write (line : ColumnLine) (last : Bool) : Except Fault String :=
  let code := if last then line.code else line.code ++ ","
  if line.comment.isEmpty then .ok ("  " ++ code)
  else match line.comment with
    | .text comment => .ok ("  " ++ padRight commentColumn code ++ " -- " ++ comment)
    | _ => Fault.breakDown .wrongKind

/-- The line of a code and a comment of any kinds. What is no text takes no comma, unless it is a
list, and no comment beside it. -/
def ofValues (code comment : Value) (last : Bool) : Except Fault ColumnLine :=
  match code with
  | .text code => .ok ⟨code, comment⟩
  | .list _ => Fault.breakDown (if comment.isEmpty then .wrongKind else .noMember)
  | _ => Fault.breakDown (if last && !comment.isEmpty then .noMember else .wrongKind)

/-- The lines of a table's body. -/
def writeAll : List ColumnLine → Except Fault (List String)
  | [] => .ok []
  | line :: rest => do
    let first ← line.write rest.isEmpty
    return first :: (← writeAll rest)

end ColumnLine

namespace ForeignKey

def statement (k : ForeignKey) : String :=
  "alter table " ++ k.table ++ " add constraint " ++ k.name ++ " foreign key (" ++ k.column
    ++ ") references " ++ k.targetTable ++ "(" ++ k.targetColumn ++ ");"

end ForeignKey

def Index.statement (i : Index) : String :=
  "create index " ++ i.name ++ " on " ++ i.table ++ "(" ++ ", ".intercalate i.columns ++ ");"

def Unique.statement (u : Unique) : String :=
  "alter table " ++ u.table ++ " add constraint " ++ u.name ++ " unique ("
    ++ ", ".intercalate u.columns ++ ");"

namespace Script

/-- The names of the modules that tables come from, each once. -/
def moduleNames (tables : List TableSchema) : List Value :=
  tables.foldl (fun names t => if names.any (·.same t.moduleName) then names
    else names ++ [t.moduleName]) []

/-- The comment at the head of a script. -/
def header (modules : List String) : List String := [
  "-- Schema auto-generated from adl modules: " ++ ", ".intercalate modules,
  "--",
  "-- column comments show original ADL types"]

/-- The statement that creates a table, after an empty line. -/
def tableLines (t : TableSchema) : Except Fault (List String) := do
  let body ← ColumnLine.writeAll t.lines
  return ["", "create table " ++ t.name ++ "("] ++ body ++ [");"]

/-- Lines after an empty one, unless there are none. -/
def afterBlank (lines : List String) : List String :=
  if lines.isEmpty then [] else "" :: lines

def lines (tables : List TableSchema) : Except Fault (List String) := do
  let modules ← TypeExpr.allTexts (moduleNames tables)
  let bodies ← tables.mapM tableLines
  let constraints := tables.flatMap (·.foreignKeys.map ForeignKey.statement)
    ++ tables.flatMap (·.indexes.map Index.statement)
    ++ tables.flatMap (·.uniques.map Unique.statement)
  return header modules ++ bodies.flatten ++ afterBlank constraints
    ++ afterBlank (tables.flatMap (·.extraSql))

def render (tables : List TableSchema) : Except Fault String := do
  return String.join ((← lines tables).map (· ++ "\n"))

end Script

end AdlTables
