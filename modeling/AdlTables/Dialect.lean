import AdlTables.Fault

/-! # Dialects

How each kind of SQL database spells column types. What a column holds is settled first, as a
`Leaf`, and only then spelled: a dialect is a profile of plain data that says nothing else. A
primitive kind that a profile does not list takes its default spelling.
-/

namespace AdlTables

/-- What a column holds, before a dialect spells it. -/
inductive Leaf where
  | primitive (kind : Value)
  | optional
  | timestamp
  | date
  | localTimestamp
  | enumeration
  | reference
deriving Repr

/-- The spellings of one dialect. -/
structure DialectProfile where
  name : String
  idColumnType : String
  enumColumnType : String
  defaultColumnType : String
  primitiveColumnTypes : List (String × String)
  timestampColumnType : String
  dateColumnType : String
  localTimestampColumnType : String
deriving DecidableEq, Repr

namespace DialectProfile

def primitiveType (p : DialectProfile) (kind : Value) : String :=
  (kind.text?.bind fun k => p.primitiveColumnTypes.lookup k).getD p.defaultColumnType

/-- The spelling of what a column holds; optional and referenced values are kinds of their own. -/
def spell (p : DialectProfile) : Leaf → String
  | .primitive kind => p.primitiveType kind
  | .optional => p.primitiveType (.text "Nullable")
  | .timestamp => p.timestampColumnType
  | .date => p.dateColumnType
  | .localTimestamp => p.localTimestampColumnType
  | .enumeration => p.enumColumnType
  | .reference => p.primitiveType (.text "Reference")

end DialectProfile

/-- The dialects there are. -/
inductive Dialect where
  | postgres
  | postgresV2
  | mssql
deriving DecidableEq, Repr

namespace Dialect

/-- All dialects, in the order in which they are shown. -/
def all : List Dialect := [postgres, postgresV2, mssql]

def name : Dialect → String
  | postgres => "postgres"
  | postgresV2 => "postgres-v2"
  | mssql => "mssql"

/-- The spellings of whole numbers and of floating-point numbers under Postgres, with the others. -/
def postgresTypes (json : String) : List (String × String) := [
  ("String", "text"), ("Bool", "boolean"), ("Json", json),
  ("Int8", "smallint"), ("Int16", "smallint"), ("Int32", "integer"), ("Int64", "bigint"),
  ("Word8", "smallint"), ("Word16", "smallint"), ("Word32", "integer"), ("Word64", "bigint"),
  ("Float", "real"), ("Double", "double precision")]

/-- The spellings under SQL Server. -/
def mssqlTypes : List (String × String) := [
  ("String", "nvarchar(max)"),
  ("Int8", "smallint"), ("Int16", "smallint"), ("Int32", "int"), ("Int64", "bigint"),
  ("Word8", "smallint"), ("Word16", "smallint"), ("Word32", "int"), ("Word64", "bigint"),
  ("Float", "float(24)"), ("Double", "float(53)"), ("Bool", "bit")]

/-- The profile of a dialect; the second form of Postgres stores opaque values as `jsonb`. -/
def profile (d : Dialect) : DialectProfile :=
  match d with
  | postgres =>
    ⟨d.name, "text", "text", "json", postgresTypes "json", "timestamp", "date", "timestamp"⟩
  | postgresV2 =>
    ⟨d.name, "text", "text", "jsonb", postgresTypes "jsonb", "timestamp", "date", "timestamp"⟩
  | mssql =>
    ⟨d.name, "nvarchar(64)", "nvarchar(64)", "nvarchar(max)", mssqlTypes, "timestamp", "date",
      "timestamp"⟩

def named? (s : String) : Option Dialect :=
  all.find? fun d => d.name == s

def ofValue (v : Value) : Except Fault Dialect :=
  if v.key?.isNone then Fault.breakDown .wrongKind
  else match v.text?.bind named? with
    | some d => .ok d
    | none => Fault.raise (.unknownDialect v)

end Dialect

end AdlTables
