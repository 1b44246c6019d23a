import AdlTables.Proofs.Budget
import AdlTables.Proofs.Entries
import AdlTables.Proofs.ForeignKey

/-! # The types of keys

A key is a text under another name, so its column has the type that a dialect gives to texts, and
the id column that it points to has the type that the dialect gives to ids. The dialects of Postgres
give both the same type and SQL Server does not: there a key has the type of the id only where the
field stands in for the id column of its own table and takes over that column's line.
-/

namespace AdlTables

/-- A type without the mark that it is not null. -/
def bareType (type : String) : String :=
  let mark := " not null".toList
  if mark.isSuffixOf type.toList then
    String.ofList (type.toList.take (type.toList.length - mark.length))
  else type

/-- The type in the line of a column: what follows the name, without the mark for not null. -/
def ColumnLine.typeOf (line : ColumnLine) (column : String) : String :=
  bareType (String.ofList (line.code.toList.drop (column.toList.length + 1)))

private theorem typeOf_column (column type : String) (comment : Value) :
    (ColumnLine.mk (column ++ " " ++ type) comment).typeOf column = bareType type := by
  have letters : (column ++ " " ++ type).toList.drop (column.toList.length + 1) = type.toList := by
    have split : (column ++ " " ++ type).toList = (column.toList ++ [' ']) ++ type.toList := by
      simp
    rw [split, List.drop_append_of_le_length (by simp)]
    simp
  rw [ColumnLine.typeOf, letters, String.ofList_toList]

private theorem typeOf_idCode (p : DialectProfile) (comment : Value) :
    (ColumnLine.mk (TableDecl.idCode p) comment).typeOf TableDecl.idColumn =
      bareType (p.idColumnType ++ " not null") := by
  rw [TableDecl.idCode, String.append_assoc]
  exact typeOf_column _ _ _

private theorem bareType_notNull (type : String) : bareType (type ++ " not null") = type := by
  have marked : " not null".toList.isSuffixOf (type ++ " not null").toList := by
    rw [String.toList_append]
    exact List.isSuffixOf_iff_suffix.2 (List.suffix_append _ _)
  rw [bareType, if_pos marked, String.toList_append, List.length_append, Nat.add_sub_cancel,
    List.take_left, String.ofList_toList]

/-- The type of the column that a dialect gives to a key. -/
def Dialect.keyType (d : Dialect) : String :=
  d.profile.spell (.primitive (.text "String"))

private theorem bareType_keyType (d : Dialect) : bareType d.keyType = d.keyType := by
  cases d <;> decide +kernel

private theorem bareType_idColumnType (d : Dialect) :
    bareType (d.profile.idColumnType ++ " not null") = d.profile.idColumnType :=
  bareType_notNull _

/-- Keys have the type of ids in the dialects of Postgres only. -/
theorem keyType_eq_iff (d : Dialect) : d.keyType = d.profile.idColumnType ↔ d ≠ .mssql := by
  cases d <;> decide +kernel

namespace Graph

variable {g : Graph} {p : DialectProfile}

/-- A graph in which the key of tables is the standard one. -/
def HasStandardKey (g : Graph) : Prop :=
  Entries.find? g.modules (.text "common.db") = some Standard.commonDb

private theorem step_dbKey (standard : g.HasStandardKey) (arg : TypeExpr) :
    g.Step (.node (.reference .dbKey) [arg]) Standard.text := by
  let key := (Standard.declare "DbKey" (.newtype [.text "T"] Standard.text)).2
  have found : g.resolve .dbKey = .ok ⟨.text "common.db", key⟩ := by
    have loaded : Entries.find? g.modules ScopedName.dbKey.moduleName = some Standard.commonDb :=
      standard
    rw [resolve, loaded]
    rfl
  exact step_iff.2 ⟨.dbKey, [arg], [.text "T"], Standard.text, rfl, rfl, rfl, ⟨_, found, rfl⟩,
    unfold_eq_ok.2 ⟨rfl, rfl, rfl, rfl⟩⟩

/-- A key holds a text. -/
theorem leaf_dbKey (standard : g.HasStandardKey) {arg : TypeExpr} {leaf : Leaf}
    (made : (g.leaf (.node (.reference .dbKey) [arg])).outcome = .ok leaf) :
    leaf = .primitive (.text "String") := by
  -- the first round expands the key unless it is refused, and the second ends at the text
  have step := step_dbKey standard arg
  rw [Graph.leaf, outcome_leafWithin, step.1, Outcome.ok_bind, Outcome.bind_eq_ok] at made
  obtain ⟨text, -, made⟩ := made
  split at made
  · cases made
  split at made
  · exact (refuseExpansion_ne_ok made).elim
  split at made
  · exact (refuseExpansion_ne_ok made).elim
  rw [step.2, Outcome.ok_bind] at made
  obtain ⟨_, -, made⟩ := Outcome.bind_eq_ok.1 made
  obtain ⟨_, -, made⟩ := Outcome.bind_eq_ok.1 made
  obtain ⟨_, -, made⟩ := Outcome.bind_eq_ok.1 made
  rw [outcome_leafWithin] at made
  exact (Except.ok.inj made).symm

/-- The column of a foreign key has the type of a key. -/
theorem columnSpec_of_key {d : Dialect} {t : TypeExpr} {spec : ColumnSpec} {ref : ForeignKeyRef}
    (standard : g.HasStandardKey) (mapped : (g.columnSpec d.profile t).outcome = .ok spec)
    (isKey : spec.foreignKey = some ref) : bareType spec.type = d.keyType := by
  obtain ⟨u, base, origin, typed, keyed⟩ := columnSpec_eq_ok mapped
  obtain ⟨name, arg, _, _, _, rfl, same, -⟩ := foreignKey_eq_some (keyed.trans (congrArg _ isKey))
  obtain rfl : name = .dbKey := ScopedName.eq_of_same same
  rw [outcome_baseColumnType, Outcome.map_eq_ok] at typed
  obtain ⟨leaf, made, rfl⟩ := typed
  obtain rfl := leaf_dbKey standard made
  obtain ⟨-, type⟩ | ⟨-, type⟩ := origin
  · rw [type]
    exact bareType_keyType d
  · rw [type]
    exact bareType_notNull _

end Graph

theorem declares_column (column type : String) (comment : Value) :
    (ColumnLine.mk (column ++ " " ++ type) comment).Declares column :=
  ⟨type.toList, by simp⟩

namespace TableDecl

variable {g : Graph} {p : DialectProfile} {t : TableDecl} {s : TableSchema}

/-- A table that asks for an id has a line for it. -/
theorem exists_idLine (made : (t.schema g p).outcome = .ok s)
    (asked : t.request.withIdPrimaryKey) : ∃ comment, ⟨idCode p, comment⟩ ∈ s.lines := by
  obtain ⟨columns, lines, of⟩ := makes_of_schema made
  cases replaced : t.fieldIsId columns with
  | false => exact ⟨.null, by simp [of.written, asked, replaced]⟩
  | true =>
    -- no line stands for the id alone: that of the field called so is in its place
    have isColumn : idColumn ∈ columns := by simpa [fieldIsId, asked] using replaced
    obtain ⟨f, member, columnNamed⟩ := (Outcome.mem_of_mapM of.named).1 isColumn
    have zipped := (Outcome.mem_zip_of_mapM of.named).2 ⟨member, columnNamed⟩
    obtain ⟨⟨line, _⟩, among, fieldMade⟩ := Outcome.exists_of_mapM of.each zipped
    obtain ⟨_, comment, _, _, code, _⟩ := fieldLine_eq_ok.1 fieldMade
    refine ⟨comment, ?_⟩
    have isLine : line = ⟨idCode p, comment⟩ := by simpa [replaced] using code
    rw [of.written, ← isLine]
    exact List.mem_append_left _ (List.mem_append_right _ (List.mem_map_of_mem among))

/-- Every foreign key points to an id. -/
theorem targetColumn_eq (made : (t.schema g p).outcome = .ok s) {k : ForeignKey}
    (member : k ∈ s.foreignKeys) : k.targetColumn = idColumn := by
  obtain ⟨f, _, spec, ref, mapped, isKey, _, toColumn⟩ := foreignKey_of_schema made member
  obtain ⟨u, _, keyed⟩ := Graph.columnSpec_foreignKey mapped
  obtain ⟨_, _, _, _, _, _, _, _, _, _, _, toId⟩ :=
    Graph.foreignKey_eq_some (keyed.trans (congrArg _ isKey))
  exact toColumn.trans toId

/-- The line of a foreign key's column is that of the id where the column is called so in a table
that asks for an id, and has the type of a key otherwise. -/
theorem exists_keyLine {d : Dialect} (standard : g.HasStandardKey)
    (made : (t.schema g d.profile).outcome = .ok s) {k : ForeignKey} (member : k ∈ s.foreignKeys) :
    ∃ line ∈ s.lines, line.Declares k.column ∧ line.typeOf k.column =
      if t.request.withIdPrimaryKey ∧ k.column = idColumn then d.profile.idColumnType
      else d.keyType := by
  obtain ⟨columns, lines, of⟩ := makes_of_schema made
  rw [of.foreignKeys, List.mem_filterMap] at member
  obtain ⟨⟨line, key⟩, among, isKey⟩ := member
  obtain ⟨⟨f, column⟩, zipped, fieldMade⟩ := (Outcome.mem_of_mapM of.each).1 among
  obtain ⟨spec, comment, mapped, -, code, keyed⟩ := fieldLine_eq_ok.1 fieldMade
  obtain ⟨ref, fromKey, rfl⟩ := Option.map_eq_some_iff.1 (keyed.symm.trans isKey)
  have isColumn : column ∈ columns := (List.of_mem_zip zipped).2
  have replaced : (t.fieldIsId columns && column == idColumn) =
      decide (t.request.withIdPrimaryKey ∧ column = idColumn) := by
    by_cases here : column = idColumn
    · subst here
      simp [fieldIsId, isColumn]
    · simp [here]
  have isLine : line ∈ s.lines := by
    rw [of.written]
    exact List.mem_append_left _ (List.mem_append_right _ (List.mem_map_of_mem among))
  refine ⟨line, isLine, ?_⟩
  rw [code, replaced]
  split
  · rename_i here
    obtain ⟨asked, rfl⟩ := of_decide_eq_true here
    refine ⟨declares_idCode _ _, ?_⟩
    rw [if_pos ⟨asked, rfl⟩, typeOf_idCode, bareType_idColumnType]
  · rename_i elsewhere
    refine ⟨declares_column _ _ _, ?_⟩
    rw [if_neg (by simpa using elsewhere), typeOf_column]
    exact Graph.columnSpec_of_key standard mapped fromKey

end TableDecl

namespace Graph

variable {g : Graph} {schemas : List TableSchema}

/-- A struct of a graph is annotated as the table of a name, by a request. -/
def Requests (g : Graph) (table : String) (request : TableRequest) : Prop :=
  ∃ d params fields, g.Holds d ∧ d.table = some request ∧ d.body = .struct params fields ∧
    d.tableName = .ok table

/-- A schema is made of a table that a struct of the graph requests. -/
theorem requests_of_mem {ts : List TableDecl} (listed : g.tables.outcome = .ok ts) {t : TableDecl}
    (member : t ∈ ts) : g.Requests t.name t.request := by
  obtain ⟨entry, inGraph, e, inModule, asked⟩ := (mem_tables listed).1 member
  obtain ⟨request, params, fields, name, annotated, struct, named, rfl⟩ :=
    TableDecl.ofDecl_eq_ok.1 asked
  exact ⟨e.2, params, fields, ⟨entry, inGraph, e, inModule, rfl⟩, annotated, struct, named⟩

/-- A table that a struct of the graph requests is listed. -/
theorem mem_of_requests {ts : List TableDecl} (listed : g.tables.outcome = .ok ts) {table : String}
    {request : TableRequest} (asked : g.Requests table request) :
    ∃ t ∈ ts, t.name = table ∧ t.request = request := by
  obtain ⟨_, params, fields, ⟨entry, inGraph, e, inModule, rfl⟩, annotated, struct, named⟩ := asked
  have made : (TableDecl.ofDecl ⟨entry.1, e.2⟩).outcome =
      .ok (some ⟨⟨entry.1, e.2⟩, fields, request, table⟩) :=
    TableDecl.ofDecl_eq_ok.2 ⟨request, params, fields, table, annotated, struct, named, rfl⟩
  exact ⟨_, (mem_tables listed).2 ⟨entry, inGraph, e, inModule, made⟩, rfl, rfl⟩

/-- A foreign key to a table that asks for an id finds the id column there. Its own column has the
same type in the dialects of Postgres; under SQL Server it has the same type exactly if it is itself
the id column of a table that asks for one. -/
theorem keyType_eq_idType_iff {d : Dialect} (standard : g.HasStandardKey)
    (mapped : (g.schemas d.profile).outcome = .ok schemas) {s : TableSchema} (member : s ∈ schemas)
    {k : ForeignKey} (isKey : k ∈ s.foreignKeys) {target : TableRequest}
    (points : g.Requests k.targetTable target) (hasId : target.withIdPrimaryKey) :
    ∃ source, g.Requests s.name source ∧ ∃ line ∈ s.lines, line.Declares k.column ∧
      ∃ s' ∈ schemas, s'.name = k.targetTable ∧
        ∃ idLine ∈ s'.lines, idLine.Declares k.targetColumn ∧
          (line.typeOf k.column = idLine.typeOf k.targetColumn ↔
            d ≠ .mssql ∨ source.withIdPrimaryKey ∧ k.column = TableDecl.idColumn) := by
  obtain ⟨ts, listed, each⟩ := schemas_eq_ok mapped
  obtain ⟨t, isTable, made⟩ := (Outcome.mem_of_mapM each).1 member
  obtain ⟨line, isLine, declares, type⟩ := TableDecl.exists_keyLine standard made isKey
  obtain ⟨t', isTable', toTable, rfl⟩ := mem_of_requests listed points
  obtain ⟨s', member', made'⟩ := Outcome.exists_of_mapM each isTable'
  obtain ⟨comment, isIdLine⟩ := TableDecl.exists_idLine made' hasId
  obtain ⟨_, _, of⟩ := TableDecl.makes_of_schema made
  obtain ⟨_, _, of'⟩ := TableDecl.makes_of_schema made'
  have toId := TableDecl.targetColumn_eq made isKey
  refine ⟨t.request, of.name ▸ requests_of_mem listed isTable, line, isLine, declares, s', member',
    of'.name.trans toTable, ⟨_, comment⟩, isIdLine, ?_, ?_⟩
  · rw [toId]
    exact declares_idCode _ _
  · rw [type, toId, typeOf_idCode, bareType_idColumnType]
    split
    · rename_i isId
      simp [isId]
    · rename_i notId
      simp [notId, keyType_eq_iff]

namespace KeyOfShape

/-- Drawings and their shapes, both with an id. -/
def shapes : Graph := graph (.struct [] side) true

private theorem hasStandardKey_shapes : shapes.HasStandardKey := by
  rw [HasStandardKey]
  rfl

def shapeTable : TableDecl where
  origin := ⟨.text "m", (declare "Shape" (.struct [] side) true).2⟩
  fields := side
  request := { TableRequest.plain with withIdPrimaryKey := true }
  name := "shape"

private theorem requests_shape : shapes.Requests key.targetTable shapeTable.request := by
  refine ⟨(declare "Shape" (.struct [] side) true).2, [], side, ?_, rfl, rfl, tableName_shape⟩
  exact ⟨_, List.mem_append_right _ List.mem_cons_self, _, List.mem_cons_self, rfl⟩

/-- The schemas of drawings and of shapes in a dialect. -/
theorem exists_schemas_of_dialect (d : Dialect) : ∃ schemas,
    (shapes.schemas d.profile).outcome = .ok schemas ∧
      (∃ s ∈ schemas, (table.schema shapes d.profile).outcome = .ok s ∧ key ∈ s.foreignKeys) ∧
      ∃ s' ∈ schemas, (shapeTable.schema shapes d.profile).outcome = .ok s' := by
  have keys : shapes.HasTextKeys := by decide +kernel
  have each : ∀ entry ∈ shapes.modules, ∀ e ∈ entry.2.decls,
      shapes.maps d.profile ⟨entry.1, e.2⟩ := by
    cases d <;> decide +kernel
  obtain ⟨schemas, made⟩ := exists_schemas keys each
  obtain ⟨ts, listed, each⟩ := schemas_eq_ok made
  have isTable : table ∈ ts := (mem_tables listed).2
    ⟨(.text "m", _), List.mem_append_right _ List.mem_cons_self,
      (.text "Drawing", drawing), List.mem_cons_of_mem _ List.mem_cons_self, ofDecl_drawing⟩
  have isTable' : shapeTable ∈ ts := (mem_tables listed).2
    ⟨(.text "m", _), List.mem_append_right _ List.mem_cons_self,
      declare "Shape" (.struct [] side) true, List.mem_cons_self,
      TableDecl.ofDecl_eq_ok.2 ⟨_, [], _, "shape", rfl, rfl, tableName_shape, rfl⟩⟩
  obtain ⟨s, member, given⟩ := Outcome.exists_of_mapM each isTable
  obtain ⟨s', member', given'⟩ := Outcome.exists_of_mapM each isTable'
  have foreign : (table.schema shapes d.profile).outcome.toOption.map (·.foreignKeys) =
      some [key] := by
    cases d <;> decide +kernel
  refine ⟨schemas, made, ⟨s, member, given, ?_⟩, s', member', given'⟩
  simp_all [Except.toOption]

/-- The schemas of drawings and of shapes under SQL Server: the key of a drawing has the type of
texts, and no id has this type. -/
theorem lines_under_mssql {s s' : TableSchema}
    (made : (table.schema shapes Dialect.mssql.profile).outcome = .ok s)
    (made' : (shapeTable.schema shapes Dialect.mssql.profile).outcome = .ok s') :
    s.lines.map (·.code) =
        ["id nvarchar(64) not null", "shape nvarchar(max) not null", "primary key(id)"] ∧
      s'.lines.map (·.code) =
        ["id nvarchar(64) not null", "side nvarchar(max) not null", "primary key(id)"] := by
  have first : (table.schema shapes Dialect.mssql.profile).outcome.toOption.map
      (·.lines.map (·.code)) = some
        ["id nvarchar(64) not null", "shape nvarchar(max) not null", "primary key(id)"] := by
    decide +kernel
  have second : (shapeTable.schema shapes Dialect.mssql.profile).outcome.toOption.map
      (·.lines.map (·.code)) = some
        ["id nvarchar(64) not null", "side nvarchar(max) not null", "primary key(id)"] := by
    decide +kernel
  rw [made] at first
  rw [made'] at second
  exact ⟨Option.some.inj first, Option.some.inj second⟩

end KeyOfShape

open KeyOfShape

/-- Under Postgres the key of a drawing has the type of the id of a shape. -/
theorem key_fits_under_postgres : ∃ schemas,
    (shapes.schemas Dialect.postgres.profile).outcome = .ok schemas ∧
      ∃ s ∈ schemas, key ∈ s.foreignKeys ∧ ∃ line ∈ s.lines, line.Declares key.column ∧
        ∃ s' ∈ schemas, s'.name = key.targetTable ∧ ∃ idLine ∈ s'.lines,
          idLine.Declares key.targetColumn ∧
            line.typeOf key.column = idLine.typeOf key.targetColumn := by
  obtain ⟨schemas, mapped, ⟨s, member, _, isKey⟩, _⟩ := exists_schemas_of_dialect .postgres
  obtain ⟨_, _, line, isLine, declares, s', member', named, idLine, isIdLine, declaresId, same⟩ :=
    keyType_eq_idType_iff hasStandardKey_shapes mapped member isKey requests_shape rfl
  exact ⟨schemas, mapped, s, member, isKey, line, isLine, declares, s', member', named, idLine,
    isIdLine, declaresId, same.2 (.inl (by decide))⟩

/-- Under SQL Server no line for the key of a drawing has the type of a line for the id of a
shape. -/
theorem key_misfits_under_mssql : ∃ schemas,
    (shapes.schemas Dialect.mssql.profile).outcome = .ok schemas ∧
      ∃ s ∈ schemas, key ∈ s.foreignKeys ∧ ∃ s' ∈ schemas, s'.name = key.targetTable ∧
        ∀ line ∈ s.lines, line.Declares key.column →
          ∀ idLine ∈ s'.lines, idLine.Declares key.targetColumn →
            line.typeOf key.column ≠ idLine.typeOf key.targetColumn := by
  obtain ⟨schemas, mapped, ⟨s, member, made, isKey⟩, s', member', made'⟩ :=
    exists_schemas_of_dialect .mssql
  obtain ⟨lines, lines'⟩ := lines_under_mssql made made'
  obtain ⟨_, _, of⟩ := TableDecl.makes_of_schema made'
  refine ⟨schemas, mapped, s, member, isKey, s', member', of.name, fun line isLine declares idLine
    isIdLine declaresId => ?_⟩
  have code : line.code = "shape nvarchar(max) not null" := by
    have among := lines ▸ List.mem_map_of_mem (f := ColumnLine.code) isLine
    have only : ∀ code ∈ ["id nvarchar(64) not null", "shape nvarchar(max) not null",
        "primary key(id)"], (key.column ++ " ").toList <+: code.toList →
          code = "shape nvarchar(max) not null" := by decide +kernel
    exact only _ among declares
  have code' : idLine.code = "id nvarchar(64) not null" := by
    have among := lines' ▸ List.mem_map_of_mem (f := ColumnLine.code) isIdLine
    have only : ∀ code ∈ ["id nvarchar(64) not null", "side nvarchar(max) not null",
        "primary key(id)"], (key.targetColumn ++ " ").toList <+: code.toList →
          code = "id nvarchar(64) not null" := by decide +kernel
    exact only _ among declaresId
  rw [ColumnLine.typeOf, ColumnLine.typeOf, code, code']
  decide +kernel

end Graph

end AdlTables
