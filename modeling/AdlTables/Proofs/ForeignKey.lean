import AdlTables.Proofs.Column
import AdlTables.Proofs.Tables
import AdlTables.Standard

/-! # Where foreign keys point

A foreign key is made for any key of a declaration that is annotated as a table. The tables are made
of structs only, and a table has an id column only if its annotation asks for one or a field is
called so. A foreign key therefore points to a column that is there exactly if a struct with such a
column has the table's name; a key of an annotated union, and one of a table without an id, point to
nothing.
-/

namespace AdlTables

/-- A line that starts with the name of a column and a blank. -/
def ColumnLine.Declares (line : ColumnLine) (column : String) : Prop :=
  (column ++ " ").toList <+: line.code.toList

def TableSchema.Declares (s : TableSchema) (column : String) : Prop :=
  ∃ line ∈ s.lines, line.Declares column

/-- A name that reads as the id column where a type follows it. -/
def ReadsAsId (column : String) : Prop :=
  (TableDecl.idColumn ++ " ").toList <+: (column ++ " ").toList

instance : DecidablePred ReadsAsId := fun column =>
  inferInstanceAs (Decidable ((TableDecl.idColumn ++ " ").toList <+: (column ++ " ").toList))

def Field.SomeReadsAsId (fields : List Field) : Prop :=
  ∃ f ∈ fields, ∃ column, f.columnName = .ok column ∧ ReadsAsId column

/-- A struct that is annotated as the table of a name and has an id column, one that the annotation
asks for or one of a field. -/
def Declaration.IsTableWithId (d : Declaration) (table : String) : Prop :=
  ∃ request params fields, d.table = some request ∧ d.body = .struct params fields ∧
    d.tableName = .ok table ∧ (request.withIdPrimaryKey ∨ Field.SomeReadsAsId fields)

private theorem id_toList : (TableDecl.idColumn ++ " ").toList = ['i', 'd', ' '] := rfl

private theorem prefix_of_blank {xs ys : List Char} :
    ['i', 'd', ' '] <+: xs ++ ' ' :: ys ↔ ['i', 'd', ' '] <+: xs ++ [' '] := by
  match xs with
  | [] => simp
  | [_] => simp
  | [_, _] => simp
  | _ :: _ :: _ :: _ => simp

private theorem readsAsId_id : ReadsAsId TableDecl.idColumn :=
  List.prefix_rfl

/-- A column's line declares the id if its name reads so. -/
theorem declares_id_iff {column type : String} {comment : Value} :
    (ColumnLine.mk (column ++ " " ++ type) comment).Declares TableDecl.idColumn ↔
      ReadsAsId column := by
  rw [ColumnLine.Declares, ReadsAsId, id_toList]
  simpa using prefix_of_blank

theorem declares_idCode (p : DialectProfile) (comment : Value) :
    (ColumnLine.mk (TableDecl.idCode p) comment).Declares TableDecl.idColumn := by
  rw [TableDecl.idCode, String.append_assoc, String.append_assoc, ← String.append_assoc]
  exact declares_id_iff.2 readsAsId_id

private theorem not_declares_keyLines {columns : List String} {line : ColumnLine}
    (member : line ∈ TableDecl.keyLines columns) : ¬ line.Declares TableDecl.idColumn := by
  rw [TableDecl.keyLines] at member
  split at member
  · cases member
  · obtain rfl := List.mem_singleton.1 member
    rw [ColumnLine.Declares, id_toList]
    simp

namespace TableDecl

variable {g : Graph} {p : DialectProfile} {t : TableDecl} {s : TableSchema}

/-- The line of a field declares the id if the name of its column reads so. -/
theorem fieldLine_declares_id_iff {table column : String} {isId : Bool} {field : Field}
    {line : ColumnLine} {key : Option ForeignKey}
    (made : (fieldLine g p table isId field column).outcome = .ok (line, key)) :
    line.Declares idColumn ↔ ReadsAsId column := by
  obtain ⟨spec, comment, _, _, rfl, _⟩ := fieldLine_eq_ok.1 made
  split
  · rename_i replaced
    obtain ⟨_, rfl⟩ : isId ∧ column = idColumn := by simpa using replaced
    exact iff_of_true (declares_idCode p comment) readsAsId_id
  · exact declares_id_iff

/-- A schema declares an id column if the annotation asks for one or a field is called so. -/
theorem schema_declares_id_iff (made : (t.schema g p).outcome = .ok s) : s.Declares idColumn ↔
    t.request.withIdPrimaryKey ∨ Field.SomeReadsAsId t.fields := by
  obtain ⟨columns, lines, of⟩ := makes_of_schema made
  have ofField (reads : Field.SomeReadsAsId t.fields) : s.Declares idColumn := by
    obtain ⟨f, member, column, columnNamed, reads⟩ := reads
    have zipped := (Outcome.mem_zip_of_mapM of.named).2 ⟨member, columnNamed⟩
    obtain ⟨⟨line, key⟩, among, fieldMade⟩ := Outcome.exists_of_mapM of.each zipped
    refine ⟨line, ?_, (fieldLine_declares_id_iff fieldMade).2 reads⟩
    rw [of.written]
    exact List.mem_append_left _ (List.mem_append_right _ (List.mem_map_of_mem among))
  constructor
  · rintro ⟨line, member, declares⟩
    rw [of.written, List.mem_append, List.mem_append] at member
    obtain (idLine | fieldLine) | keyLine := member
    · split at idLine
      · rename_i asked
        exact .inl (Bool.and_eq_true _ _ ▸ asked : _ ∧ _).1
      · cases idLine
    · obtain ⟨⟨line, key⟩, among, rfl⟩ := List.mem_map.1 fieldLine
      obtain ⟨⟨f, column⟩, zipped, fieldMade⟩ := (Outcome.mem_of_mapM of.each).1 among
      obtain ⟨member, columnNamed⟩ := (Outcome.mem_zip_of_mapM of.named).1 zipped
      exact .inr ⟨f, member, column, columnNamed, (fieldLine_declares_id_iff fieldMade).1 declares⟩
    · exact (not_declares_keyLines keyLine declares).elim
  · rintro (asked | reads)
    · cases replaced : t.fieldIsId columns with
      | false =>
        exact ⟨⟨idCode p, .null⟩, by simp [of.written, asked, replaced], declares_idCode p _⟩
      | true =>
        -- a field takes the place of the id column, so its own line declares it
        have isColumn : idColumn ∈ columns := by simpa [fieldIsId, asked] using replaced
        obtain ⟨f, member, columnNamed⟩ := (Outcome.mem_of_mapM of.named).1 isColumn
        exact ofField ⟨f, member, idColumn, columnNamed, readsAsId_id⟩
    · exact ofField reads

/-- A foreign key of a schema is that of the column of a field. -/
theorem foreignKey_of_schema (made : (t.schema g p).outcome = .ok s) {k : ForeignKey}
    (member : k ∈ s.foreignKeys) : ∃ f ∈ t.fields, ∃ spec ref,
      (g.columnSpec p f.type).outcome = .ok spec ∧ spec.foreignKey = some ref ∧
        k.targetTable = ref.table ∧ k.targetColumn = ref.column := by
  obtain ⟨columns, lines, of⟩ := makes_of_schema made
  obtain ⟨f, column, spec, ref, zipped, mapped, isKey, rfl⟩ := of.exists_field member
  exact ⟨f, (List.of_mem_zip zipped).1, spec, ref, mapped, isKey, rfl, rfl⟩

end TableDecl

namespace Graph

variable {g : Graph} {p : DialectProfile} {schemas : List TableSchema}

/-- The schemas of a name that have an id column are those of structs that ask for it. -/
theorem exists_schema_iff (mapped : (g.schemas p).outcome = .ok schemas) (table : String) :
    (∃ s ∈ schemas, s.name = table ∧ s.Declares TableDecl.idColumn) ↔
      ∃ d, g.Holds d ∧ d.IsTableWithId table := by
  obtain ⟨ts, listed, each⟩ := schemas_eq_ok mapped
  constructor
  · rintro ⟨s, member, rfl, declares⟩
    obtain ⟨t, isTable, made⟩ := (Outcome.mem_of_mapM each).1 member
    obtain ⟨entry, inGraph, e, inModule, asked⟩ := (mem_tables listed).1 isTable
    obtain ⟨request, params, fields, name, annotated, struct, named, rfl⟩ :=
      TableDecl.ofDecl_eq_ok.1 asked
    obtain ⟨_, _, of⟩ := TableDecl.makes_of_schema made
    exact ⟨e.2, ⟨entry, inGraph, e, inModule, rfl⟩, request, params, fields, annotated, struct,
      of.name ▸ named, (TableDecl.schema_declares_id_iff made).1 declares⟩
  · rintro ⟨_, ⟨entry, inGraph, e, inModule, rfl⟩, request, params, fields, annotated, struct,
      named, hasId⟩
    have asked : (TableDecl.ofDecl ⟨entry.1, e.2⟩).outcome =
        .ok (some ⟨⟨entry.1, e.2⟩, fields, request, table⟩) :=
      TableDecl.ofDecl_eq_ok.2 ⟨request, params, fields, table, annotated, struct, named, rfl⟩
    have isTable := (mem_tables listed).2 ⟨entry, inGraph, e, inModule, asked⟩
    obtain ⟨s, member, made⟩ := Outcome.exists_of_mapM each isTable
    obtain ⟨_, _, of⟩ := TableDecl.makes_of_schema made
    exact ⟨s, member, of.name, (TableDecl.schema_declares_id_iff made).2 hasId⟩

namespace KeyOfShape

/-- A declaration that is annotated as a table, with an id as its key or without a key. -/
def declare (name : String) (body : Body) (withId : Bool) : Value × Declaration :=
  (.text name, ⟨.text name, body, [], some { TableRequest.plain with withIdPrimaryKey := withId }⟩)

/-- The field of a drawing that is a key of its shape. -/
def shapeField : Field :=
  Standard.field "shape" (.reference .dbKey [.reference (.ofTexts "m" "Shape") []])

def drawing : Declaration := (declare "Drawing" (.struct [] [shapeField]) true).2

/-- The graph of drawings and their shapes, whatever a shape is declared as. -/
def graph (body : Body) (withId : Bool) : Graph :=
  ⟨Standard.modules ++ [(.text "m", Standard.moduleOf "m" [
    declare "Shape" body withId, (.text "Drawing", drawing)])]⟩

/-- The side of a square, which is all that there is to a shape. -/
def side : List Field := [Standard.field "side" Standard.text]

def table : TableDecl where
  origin := ⟨.text "m", drawing⟩
  fields := [shapeField]
  request := { TableRequest.plain with withIdPrimaryKey := true }
  name := "drawing"

def key : ForeignKey := ⟨"drawing", "shape", "shape", "id"⟩

/-- Whether every declaration is mapped, and drawings have their foreign key. -/
def IsMapped (body : Body) (withId : Bool) : Prop :=
  (graph body withId).HasTextKeys ∧
  (∀ entry ∈ (graph body withId).modules, ∀ e ∈ entry.2.decls,
    (graph body withId).maps Dialect.postgres.profile ⟨entry.1, e.2⟩) ∧
  (table.schema (graph body withId) Dialect.postgres.profile).outcome.toOption.map (·.foreignKeys)
    = some [key]

instance (body : Body) (withId : Bool) : Decidable (IsMapped body withId) := by
  unfold IsMapped
  infer_instance

private theorem tableName_drawing : drawing.tableName = .ok "drawing" :=
  congrArg Except.ok (by decide +kernel)

theorem tableName_shape : (declare "Shape" (.struct [] side) true).2.tableName = .ok "shape" :=
  congrArg Except.ok (by decide +kernel)

theorem ofDecl_drawing : (TableDecl.ofDecl ⟨.text "m", drawing⟩).outcome = .ok (some table) :=
  TableDecl.ofDecl_eq_ok.2 ⟨_, [], _, "drawing", rfl, rfl, tableName_drawing, rfl⟩

private theorem exists_key {body : Body} {withId : Bool} (mapped : IsMapped body withId) :
    ∃ schemas, ((graph body withId).schemas Dialect.postgres.profile).outcome = .ok schemas ∧
      ∃ s ∈ schemas, key ∈ s.foreignKeys := by
  obtain ⟨schemas, made⟩ := exists_schemas mapped.1 mapped.2.1
  obtain ⟨ts, listed, each⟩ := schemas_eq_ok made
  have isTable : table ∈ ts := (mem_tables listed).2
    ⟨(.text "m", _), List.mem_append_right _ List.mem_cons_self,
      (.text "Drawing", drawing), List.mem_cons_of_mem _ List.mem_cons_self, ofDecl_drawing⟩
  obtain ⟨s, member, given⟩ := Outcome.exists_of_mapM each isTable
  have keys := mapped.2.2
  rw [given] at keys
  exact ⟨schemas, made, s, member, by simp_all [Except.toOption]⟩

/-- A declaration of the graph is the table of shapes only if it is that of shapes. -/
theorem isTableWithId_shape {body : Body} {withId : Bool} {d : Declaration}
    (holds : (graph body withId).Holds d) (isTable : d.IsTableWithId "shape") :
    ∃ params fields, body = .struct params fields ∧ (withId ∨ Field.SomeReadsAsId fields) := by
  obtain ⟨request, params, fields, annotated, struct, named, hasId⟩ := isTable
  obtain ⟨entry, inGraph, e, inModule, rfl⟩ := holds
  obtain standard | new := List.mem_append.1 inGraph
  · have plain : (⟨Standard.modules⟩ : Graph).Every (·.table = none) := by decide
    simp [plain entry standard e inModule] at annotated
  · obtain rfl := List.mem_singleton.1 new
    obtain rfl | rfl : e = declare "Shape" body withId ∨ e = (.text "Drawing", drawing) := by
      simpa [Standard.moduleOf] using inModule
    · obtain rfl := Option.some.inj annotated
      exact ⟨params, fields, struct, hasId⟩
    · simp [tableName_drawing] at named

end KeyOfShape

/-- A foreign key points to the id column of the table that a declaration of the graph is annotated
as. The column is there exactly if some struct is annotated as the table of this name and has an id
column. -/
theorem foreignKey_target_iff (mapped : (g.schemas p).outcome = .ok schemas) {s : TableSchema}
    (member : s ∈ schemas) {k : ForeignKey} (isKey : k ∈ s.foreignKeys) :
    k.targetColumn = TableDecl.idColumn ∧
    (∃ d, g.Holds d ∧ d.table.isSome ∧ d.tableName = .ok k.targetTable) ∧
    ((∃ s' ∈ schemas, s'.name = k.targetTable ∧ s'.Declares k.targetColumn) ↔
      ∃ d, g.Holds d ∧ d.IsTableWithId k.targetTable) := by
  obtain ⟨ts, listed, each⟩ := schemas_eq_ok mapped
  obtain ⟨t, _, made⟩ := (Outcome.mem_of_mapM each).1 member
  obtain ⟨f, _, spec, ref, column, keyed, toTable, toColumn⟩ :=
    TableDecl.foreignKey_of_schema made isKey
  obtain ⟨u, _, fromKey⟩ := columnSpec_foreignKey column
  obtain ⟨_, _, _, _, d, _, _, _, found, annotated, named, toId⟩ :=
    foreignKey_eq_some (fromKey.trans (congrArg _ keyed))
  have isId : k.targetColumn = TableDecl.idColumn := toColumn.trans toId
  refine ⟨isId, ⟨d.decl, holds_of_resolve found, annotated, toTable ▸ named⟩, ?_⟩
  rw [isId]
  exact exists_schema_iff mapped k.targetTable

open KeyOfShape

/-- The key of a drawing points to the id of a shape where shapes are structs with an id. -/
theorem key_points_to_shape :
    ∃ schemas, ((graph (.struct [] side) true).schemas Dialect.postgres.profile).outcome =
        .ok schemas ∧ ∃ s ∈ schemas, key ∈ s.foreignKeys ∧
          ∃ s' ∈ schemas, s'.name = key.targetTable ∧ s'.Declares key.targetColumn := by
  have isMapped : IsMapped (.struct [] side) true := by decide +kernel
  have target : ∃ d, (graph (.struct [] side) true).Holds d ∧ d.IsTableWithId "shape" := by
    refine ⟨(declare "Shape" (.struct [] side) true).2, ?_, ?_⟩
    · exact ⟨_, List.mem_append_right _ List.mem_cons_self, _, List.mem_cons_self, rfl⟩
    · exact ⟨_, _, _, rfl, rfl, tableName_shape, .inl rfl⟩
  obtain ⟨schemas, mapped, s, member, isKey⟩ := exists_key isMapped
  have points := (foreignKey_target_iff mapped member isKey).2.2
  exact ⟨schemas, mapped, s, member, isKey, points.2 target⟩

/-- Some foreign key of a graph points to a column that is not there. -/
def HasDanglingKey (g : Graph) (p : DialectProfile) : Prop :=
  ∃ schemas, (g.schemas p).outcome = .ok schemas ∧ ∃ s ∈ schemas, ∃ k ∈ s.foreignKeys,
    ¬ ∃ s' ∈ schemas, s'.name = k.targetTable ∧ s'.Declares k.targetColumn

private theorem hasDanglingKey_of_body {body : Body} (isMapped : IsMapped body false)
    (noId : ∀ fields, body.fields? = some fields → ¬ Field.SomeReadsAsId fields) :
    (graph body false).HasDanglingKey Dialect.postgres.profile := by
  obtain ⟨schemas, mapped, s, member, isKey⟩ := exists_key isMapped
  refine ⟨schemas, mapped, s, member, key, isKey, fun target => ?_⟩
  obtain ⟨d, holds, isTable⟩ := (exists_schema_iff mapped "shape").1 target
  obtain ⟨params, fields, rfl, asked | reads⟩ := isTableWithId_shape holds isTable
  · cases asked
  · exact noId fields rfl reads

/-- The key of a drawing points to nothing where shapes are a union that is annotated as a table,
and where they are a struct whose table has no id. -/
theorem key_points_nowhere :
    (graph (.union [] side) false).HasDanglingKey Dialect.postgres.profile ∧
      (graph (.struct [] side) false).HasDanglingKey Dialect.postgres.profile := by
  have noId : ¬ Field.SomeReadsAsId side := by
    rintro ⟨f, isField, column, named, reads⟩
    obtain rfl := List.mem_singleton.1 isField
    obtain rfl : "side" = column := Except.ok.inj named
    exact absurd reads (by decide)
  constructor
  · exact hasDanglingKey_of_body (by decide +kernel) fun _ same => Option.some.inj same ▸ noId
  · exact hasDanglingKey_of_body (by decide +kernel) fun _ same => Option.some.inj same ▸ noId

end Graph

end AdlTables
