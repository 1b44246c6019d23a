import Mathlib.Data.List.Nodup
import AdlTables.Proofs.KeyColumn

/-! # The columns of a table

The lines of a table and its constraints name columns by different ways: a line is written for each
field, while an annotation names fields or columns, and the first field of a name decides. Both come
to the columns of the fields and to the id, which is there once if it is asked for, as a column of
its own or in the place of a field.
-/

namespace AdlTables

namespace TableDecl

variable {g : Graph} {p : DialectProfile} {t : TableDecl} {s : TableSchema} {column : String}
  {columns : List String} {lines : List (ColumnLine × Option ForeignKey)}

/-- The columns that a table has if its fields have some: the id comes first where it is asked for
and no field is called so. -/
def declared (t : TableDecl) (columns : List String) : List String :=
  if t.request.withIdPrimaryKey ∧ idColumn ∉ columns then idColumn :: columns else columns

private theorem isAdded_iff : t.request.withIdPrimaryKey && !t.fieldIsId columns ↔
    t.request.withIdPrimaryKey ∧ idColumn ∉ columns := by
  cases asked : t.request.withIdPrimaryKey <;> simp [fieldIsId, asked]

private theorem declared_eq_cons (added : t.request.withIdPrimaryKey ∧ idColumn ∉ columns) :
    t.declared columns = idColumn :: columns :=
  if_pos added

private theorem declared_eq_self (kept : ¬ (t.request.withIdPrimaryKey ∧ idColumn ∉ columns)) :
    t.declared columns = columns :=
  if_neg kept

private theorem mem_declared : column ∈ t.declared columns ↔
    column ∈ columns ∨ t.request.withIdPrimaryKey ∧ column = idColumn := by
  by_cases added : t.request.withIdPrimaryKey ∧ idColumn ∉ columns
  · rw [declared_eq_cons added, List.mem_cons, or_comm]
    simp [added.1]
  · rw [declared_eq_self added]
    constructor
    · exact .inl
    · rintro (member | ⟨asked, rfl⟩)
      · exact member
      · by_contra absent
        exact added ⟨asked, absent⟩

private theorem declared_nodup (distinct : columns.Nodup) : (t.declared columns).Nodup := by
  by_cases added : t.request.withIdPrimaryKey ∧ idColumn ∉ columns
  · rw [declared_eq_cons added]
    exact List.nodup_cons.2 ⟨added.2, distinct⟩
  · rwa [declared_eq_self added]

/-- A line of a column. That of an id which is asked for does not depend on any field. -/
def IsLine (p : DialectProfile) (t : TableDecl) (column : String) (line : ColumnLine) : Prop :=
  line.Declares column ∧
    (t.request.withIdPrimaryKey → column = idColumn → line.code = idCode p)

/-- The line of the primary key, which stands last if there is such a key. -/
def keyLine (columns : List String) : ColumnLine :=
  ⟨"primary key(" ++ ",".intercalate columns ++ ")", .null⟩

private theorem keyLines_nil : keyLines [] = [] := rfl

private theorem keyLines_of_ne_nil {key : List String} (some : key ≠ []) :
    keyLines key = [keyLine key] := by
  cases key with
  | nil => exact (some rfl).elim
  | cons column rest => rfl

private theorem isLine_idCode (p : DialectProfile) (t : TableDecl) (comment : Value) :
    t.IsLine p idColumn ⟨idCode p, comment⟩ :=
  ⟨declares_idCode p comment, fun _ _ => rfl⟩

private theorem isLine_fieldLine {field : Field} {line : ColumnLine} {key : Option ForeignKey}
    (isColumn : column ∈ columns)
    (made : (fieldLine g p t.name (t.fieldIsId columns) field column).outcome = .ok (line, key)) :
    t.IsLine p column line := by
  obtain ⟨spec, comment, _, _, rfl, _⟩ := fieldLine_eq_ok.1 made
  by_cases isId : t.request.withIdPrimaryKey ∧ column = idColumn
  · obtain ⟨asked, rfl⟩ := isId
    have replaced : t.fieldIsId columns := by simp [fieldIsId, asked, isColumn]
    simpa [replaced] using isLine_idCode p t comment
  · have kept : (t.fieldIsId columns && column == idColumn) = false := by
      rw [Bool.eq_false_iff]
      simpa [fieldIsId] using fun asked _ isIdColumn => isId ⟨asked, isIdColumn⟩
    simp only [kept, Bool.false_eq_true, ↓reduceIte]
    exact ⟨declares_column column spec.type comment, fun asked same => (isId ⟨asked, same⟩).elim⟩

namespace Makes

variable (of : Makes g p t columns lines s)

include of

/-- A table has a line for each of its columns, in order, and then one for its primary key. -/
theorem exists_lines : ∃ own, List.Forall₂ (t.IsLine p) (t.declared columns) own ∧
    s.lines = own ++ keyLines s.primaryKey := by
  have ofFields : List.Forall₂ (t.IsLine p) columns (lines.map (·.1)) := by
    have length := (Outcome.mapM_eq_ok.1 of.named).length_eq
    have related := Outcome.mapM_eq_ok.1 of.each
    rw [List.forall₂_map_right_iff, ← List.map_snd_zip (Nat.le_of_eq length.symm),
      List.forall₂_map_left_iff]
    refine forall₂_imp_of_mem related fun pair member line made => ?_
    exact isLine_fieldLine (List.of_mem_zip member).2 made
  by_cases added : t.request.withIdPrimaryKey ∧ idColumn ∉ columns
  · rw [declared_eq_cons added, of.written, if_pos (isAdded_iff.2 added)]
    exact ⟨_ :: lines.map (·.1), .cons (isLine_idCode p t .null) ofFields, rfl⟩
  · rw [declared_eq_self added, of.written, if_neg (mt isAdded_iff.1 added)]
    exact ⟨lines.map (·.1), ofFields, rfl⟩

/-- A table that asks for an id has it as its primary key. -/
theorem primaryKey_eq_id (asked : t.request.withIdPrimaryKey) : s.primaryKey = [idColumn] := by
  have made := of.primaryKey
  rw [TableDecl.primaryKey, if_pos asked] at made
  split at made
  all_goals
    simpa [eq_comm] using made

end Makes

namespace SwappedNames

open Graph.KeyOfShape (shapes shapeField drawing)

def renamed (name column : String) (type : TypeExpr) : Field :=
  ⟨.text name, type, [(.dbColumnName, .text column)]⟩

/-- A table of drawings in which one field has the column that another is called as, and this one,
though it is optional, has the column of the id. -/
def drawings : TableDecl where
  origin := ⟨.text "m", drawing⟩
  fields := [renamed "shape" "title" shapeField.type,
    renamed "title" "id" (.reference .maybe [Standard.text])]
  request := { TableRequest.plain with
    withIdPrimaryKey := true
    withPrimaryKey := ["shape"]
    indexes := [["shape", "title"], ["id"]]
    uniquenessConstraints := [["title"]] }
  name := "drawing"

private theorem columnNames : drawings.fields.mapM Field.columnName = .ok ["title", "id"] := rfl

private theorem declared_eq : drawings.declared ["title", "id"] = ["title", "id"] := by decide

private theorem exists_schema :
    ∃ s, (drawings.schema shapes Dialect.postgres.profile).outcome = .ok s := by
  have isOk : (drawings.schema shapes Dialect.postgres.profile).outcome.toBool := by decide +kernel
  cases made : (drawings.schema shapes Dialect.postgres.profile).outcome with
  | ok s => exact ⟨s, rfl⟩
  | error fault => simp [made, Except.toBool] at isOk

end SwappedNames

/-- Where the columns of the fields are distinct, so are those of the table, and each has a line:
the id first where it is asked for and no field is called so, then the columns of the fields in
their order. An id that is asked for is there once, with a line that does not depend on any field,
and it is the primary key, whatever other key is asked for. The line of the primary key is the last,
and there is one exactly if there is such a key. -/
theorem schema_columns (made : (t.schema g p).outcome = .ok s)
    (named : t.fields.mapM Field.columnName = .ok columns) (distinct : columns.Nodup) :
    (t.declared columns).Nodup ∧
    (t.request.withIdPrimaryKey →
      (t.declared columns).count idColumn = 1 ∧ s.primaryKey = [idColumn]) ∧
    ∃ own, List.Forall₂ (t.IsLine p) (t.declared columns) own ∧
      (s.primaryKey = [] → s.lines = own) ∧
      (s.primaryKey ≠ [] → s.lines = own ++ [keyLine s.primaryKey]) := by
  obtain ⟨columns', lines, of⟩ := makes_of_schema made
  obtain rfl : columns' = columns := Except.ok.inj (of.named.symm.trans named)
  obtain ⟨own, ofColumns, written⟩ := of.exists_lines
  have nodup : (t.declared columns').Nodup := declared_nodup distinct
  refine ⟨nodup, fun asked => ⟨?_, of.primaryKey_eq_id asked⟩, own, ofColumns, ?_, ?_⟩
  · exact List.count_eq_one_of_mem nodup (mem_declared.2 (.inr ⟨asked, rfl⟩))
  · intro none
    rw [written, none, keyLines_nil, List.append_nil]
  · intro some
    rw [written, keyLines_of_ne_nil some]

open SwappedNames

/-- The columns of drawings and their lines, with the id as the key. -/
theorem schema_columns_drawings : ∃ s,
    (drawings.schema Graph.KeyOfShape.shapes Dialect.postgres.profile).outcome = .ok s ∧
      s.primaryKey = ["id"] ∧
      ∃ own, List.Forall₂ (drawings.IsLine Dialect.postgres.profile) ["title", "id"] own ∧
        s.lines = own ++ [⟨"primary key(id)", .null⟩] := by
  obtain ⟨s, made⟩ := exists_schema
  obtain ⟨-, withId, own, ofColumns, -, keyed⟩ := schema_columns made columnNames (by decide)
  have isId : s.primaryKey = ["id"] := (withId rfl).2
  rw [declared_eq] at ofColumns
  rw [isId] at keyed
  exact ⟨s, made, isId, own, ofColumns, keyed (by decide)⟩

/-- A name that the annotation of a table may use for a column: that of a field, the column of one,
or the id where it is asked for. -/
def Knows (t : TableDecl) (columns : List String) (name : String) : Prop :=
  (∃ f ∈ t.fields, f.name = .text name) ∨ name ∈ columns ∨
    t.request.withIdPrimaryKey ∧ name = idColumn

def namesUsed (t : TableDecl) : List String :=
  t.request.withPrimaryKey ++ t.request.indexes.flatten ++ t.request.uniquenessConstraints.flatten

/-- Columns are those that names stand for, one for each in order. -/
def StandFor (t : TableDecl) (names used : List String) : Prop :=
  List.Forall₂ (fun name column => Field.columnFor t.fields name = .ok column) names used

/-- All columns of the primary key, the indexes and the uniqueness constraints of a schema. -/
def columnsUsed (s : TableSchema) : List String :=
  s.primaryKey ++ s.indexes.flatMap (·.columns) ++ s.uniques.flatMap (·.columns)

private theorem columnsFor_eq_ok {names used : List String} :
    columnsFor t.fields names = .ok used ↔ t.StandFor names used :=
  Outcome.mapM_eq_ok

private theorem stand_of_mapM {α : Type} {names : List (List String)} {constraints : List α}
    {columnsOf : α → List String}
    (each : names.mapM (columnsFor t.fields) = .ok (constraints.map columnsOf)) :
    List.Forall₂ (fun names c => t.StandFor names (columnsOf c)) names constraints := by
  have related := Outcome.mapM_eq_ok.1 each
  rw [List.forall₂_map_right_iff] at related
  exact related.imp fun _ _ => columnsFor_eq_ok.1

private theorem numberedColumns_eq_ok {lists : List (List String)}
    {numbered : List (Nat × List String)} (made : numberedColumns t.fields lists = .ok numbered) :
    lists.mapM (columnsFor t.fields) = .ok (numbered.map (·.2)) := by
  obtain ⟨used, each, numbers⟩ := Outcome.bind_eq_ok.1 made
  obtain rfl := Except.ok.inj numbers
  rw [each]
  exact congrArg Except.ok (List.ext_getElem (by simp) (by simp))

private theorem mem_declared_of_knows {name : String}
    (named : t.fields.mapM Field.columnName = .ok columns) (knows : t.Knows columns name)
    (found : Field.columnFor t.fields name = .ok column) : column ∈ t.declared columns := by
  rw [Field.columnFor, Field.named?] at found
  split at found
  · rename_i f first
    have isField : f ∈ t.fields := List.mem_of_find?_eq_some first
    exact mem_declared.2 (.inl ((Outcome.mem_of_mapM named).2 ⟨f, isField, found⟩))
  · rename_i unnamed
    obtain rfl := Except.ok.inj found
    obtain ⟨f, isField, called⟩ | other := knows
    · have unlike := List.find?_eq_none.1 unnamed f isField
      simp [called] at unlike
    · exact mem_declared.2 other

/-- The columns that known names stand for are declared. -/
theorem StandFor.declared {names used : List String} (stand : t.StandFor names used)
    (named : t.fields.mapM Field.columnName = .ok columns)
    (knows : ∀ name ∈ names, t.Knows columns name) : ∀ c ∈ used, c ∈ t.declared columns := by
  intro c member
  obtain ⟨name, among, found⟩ := exists_of_forall₂ stand member
  exact mem_declared_of_knows named (knows name among) found

private theorem declared_of_forall₂ {α : Type} {names : List (List String)} {constraints : List α}
    {columnsOf : α → List String}
    (stand : List.Forall₂ (fun names c => t.StandFor names (columnsOf c)) names constraints)
    (named : t.fields.mapM Field.columnName = .ok columns)
    (knows : ∀ name ∈ names.flatten, t.Knows columns name) :
    ∀ column ∈ constraints.flatMap columnsOf, column ∈ t.declared columns := by
  intro column member
  obtain ⟨c, among, inside⟩ := List.mem_flatMap.1 member
  obtain ⟨used, given, each⟩ := exists_of_forall₂ stand among
  have known : ∀ name ∈ used, t.Knows columns name := fun name asked =>
    knows name (List.mem_flatten.2 ⟨used, given, asked⟩)
  exact each.declared named known column inside

namespace Makes

variable (of : Makes g p t columns lines s)

include of

/-- A foreign key belongs to the table and to the column of a field. -/
theorem foreignKey_declared {k : ForeignKey} (member : k ∈ s.foreignKeys) :
    k.table = s.name ∧ k.column ∈ t.declared columns := by
  obtain ⟨f, column, _, _, zipped, _, _, rfl⟩ := of.exists_field member
  exact ⟨of.name.symm, mem_declared.2 (.inl (List.of_mem_zip zipped).2)⟩

private theorem primaryKey_stand (plain : ¬ t.request.withIdPrimaryKey) :
    t.StandFor t.request.withPrimaryKey s.primaryKey := by
  have made := of.primaryKey
  rw [TableDecl.primaryKey, if_neg plain] at made
  exact columnsFor_eq_ok.1 made

private theorem indexes_stand :
    List.Forall₂ (fun names i => t.StandFor names i.columns) t.request.indexes s.indexes := by
  obtain ⟨numbered, made, indexes⟩ := Outcome.bind_eq_ok.1 of.indexes
  refine stand_of_mapM ((numberedColumns_eq_ok made).trans ?_)
  rw [← Except.ok.inj indexes, List.map_map]
  rfl

private theorem uniques_stand : List.Forall₂ (fun names u => t.StandFor names u.columns)
    t.request.uniquenessConstraints s.uniques := by
  obtain ⟨numbered, made, uniques⟩ := Outcome.bind_eq_ok.1 of.uniques
  refine stand_of_mapM ((numberedColumns_eq_ok made).trans ?_)
  rw [← Except.ok.inj uniques, List.map_map]
  rfl

/-- Where all names are known every column that is used is declared. -/
theorem columnsUsed_declared (knows : ∀ name ∈ t.namesUsed, t.Knows columns name) :
    ∀ column ∈ columnsUsed s, column ∈ t.declared columns := by
  rw [namesUsed, List.forall_mem_append, List.forall_mem_append] at knows
  obtain ⟨⟨inKey, inIndexes⟩, inUniques⟩ := knows
  rw [columnsUsed, List.forall_mem_append, List.forall_mem_append]
  refine ⟨⟨?_, ?_⟩, ?_⟩
  · by_cases asked : t.request.withIdPrimaryKey
    · rw [of.primaryKey_eq_id asked, List.forall_mem_singleton]
      exact mem_declared.2 (.inr ⟨asked, rfl⟩)
    · exact (of.primaryKey_stand asked).declared of.named inKey
  · exact declared_of_forall₂ of.indexes_stand of.named inIndexes
  · exact declared_of_forall₂ of.uniques_stand of.named inUniques

end Makes

/-- The columns of a table each have a line, in order. A foreign key belongs to one of them. The
primary key, unless it is the id, and every index and uniqueness constraint have a column for each
name that the annotation gives them, in order, and where it gives names of fields, columns of fields
and the id of a table that asks for one, these are columns of the table. -/
theorem constraints_declared (made : (t.schema g p).outcome = .ok s) :
    ∃ columns, t.fields.mapM Field.columnName = .ok columns ∧
      (∃ own, List.Forall₂ (t.IsLine p) (t.declared columns) own ∧
        s.lines = own ++ keyLines s.primaryKey) ∧
      (∀ k ∈ s.foreignKeys, k.table = s.name ∧ k.column ∈ t.declared columns) ∧
      (t.request.withIdPrimaryKey → s.primaryKey = [idColumn]) ∧
      (¬ t.request.withIdPrimaryKey → t.StandFor t.request.withPrimaryKey s.primaryKey) ∧
      List.Forall₂ (fun names i => t.StandFor names i.columns) t.request.indexes s.indexes ∧
      List.Forall₂ (fun names u => t.StandFor names u.columns) t.request.uniquenessConstraints
        s.uniques ∧
      ((∀ name ∈ t.namesUsed, t.Knows columns name) →
        ∀ column ∈ columnsUsed s, column ∈ t.declared columns) := by
  obtain ⟨columns, lines, of⟩ := makes_of_schema made
  exact ⟨columns, of.named, of.exists_lines, fun _ => of.foreignKey_declared, of.primaryKey_eq_id,
    of.primaryKey_stand, of.indexes_stand, of.uniques_stand, of.columnsUsed_declared⟩

/-- The columns that drawings use are all declared, though one field is called as the column of
another. -/
theorem constraints_declared_drawings : ∃ s,
    (drawings.schema Graph.KeyOfShape.shapes Dialect.postgres.profile).outcome = .ok s ∧
      (∀ k ∈ s.foreignKeys, k.column ∈ ["title", "id"]) ∧
      ∀ column ∈ columnsUsed s, column ∈ ["title", "id"] := by
  obtain ⟨s, made⟩ := exists_schema
  obtain ⟨columns, named, -, keys, -, -, -, -, declared⟩ := constraints_declared made
  obtain rfl : columns = ["title", "id"] := Except.ok.inj (named.symm.trans columnNames)
  rw [declared_eq] at keys declared
  have knows : ∀ name ∈ drawings.namesUsed, drawings.Knows ["title", "id"] name := by
    have used : drawings.namesUsed = ["shape", "shape", "title", "id", "title"] := rfl
    have first : drawings.Knows ["title", "id"] "shape" := .inl ⟨_, List.mem_cons_self, rfl⟩
    simpa [used, Knows] using first
  exact ⟨s, made, fun k isKey => (keys k isKey).2, declared knows⟩

end TableDecl

end AdlTables
