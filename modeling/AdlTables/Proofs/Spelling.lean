import AdlTables.Proofs.Column
import AdlTables.Proofs.Tables

/-! # What a dialect has to say

A dialect takes part in a schema only where it spells the type of a column. Everything else, and
which of the things that a column may hold is spelled, is settled before: there is one plan of all
tables, made without any dialect, and the schemas in a dialect are this plan spelled out. The second
form of Postgres spells like the first one with `jsonb` for `json`.
-/

namespace AdlTables

/-- What a column is for: an id, or something that it holds. -/
inductive ColumnKind where
  | id
  | holds (leaf : Leaf)

def DialectProfile.typeOf (p : DialectProfile) : ColumnKind → String
  | .id => p.idColumnType
  | .holds leaf => p.spell leaf

/-- A column before its type is spelled. -/
structure ColumnPlan where
  leaf : Leaf
  nullable : Bool
  foreignKey : Option ForeignKeyRef

def ColumnPlan.spelled (p : DialectProfile) (c : ColumnPlan) : ColumnSpec :=
  ⟨p.spell c.leaf ++ if c.nullable then "" else " not null", c.nullable, c.foreignKey⟩

/-- A line of a table's body before types are spelled. -/
inductive LinePlan where
  | column (name : String) (kind : ColumnKind) (nullable : Bool) (comment : Value)
  | key (columns : List String)

def LinePlan.spelled (typeOf : ColumnKind → String) : LinePlan → ColumnLine
  | column name kind nullable comment =>
    ⟨name ++ " " ++ (typeOf kind ++ if nullable then "" else " not null"), comment⟩
  | key columns => ⟨"primary key(" ++ ",".intercalate columns ++ ")", .null⟩

/-- All that is written about one table, before types are spelled. -/
structure TablePlan where
  name : String
  moduleName : Value
  declName : Value
  lines : List LinePlan
  foreignKeys : List ForeignKey
  indexes : List Index
  uniques : List Unique
  extraSql : List String
  primaryKey : List String

def TablePlan.spelled (typeOf : ColumnKind → String) (t : TablePlan) : TableSchema where
  name := t.name
  moduleName := t.moduleName
  declName := t.declName
  lines := t.lines.map (LinePlan.spelled typeOf)
  foreignKeys := t.foreignKeys
  indexes := t.indexes
  uniques := t.uniques
  extraSql := t.extraSql
  primaryKey := t.primaryKey

/-- Outcomes for all dialects that come from one plan: where it fails all of them fail alike, and
otherwise each is the plan spelled out. -/
def Planned {α β : Type} (spell : DialectProfile → β → α) (x : DialectProfile → Except Fault α) :
    Prop :=
  ∃ plan : Except Fault β, ∀ p, x p = spell p <$> plan

namespace Planned

variable {α α' β β' : Type} {spell : DialectProfile → β → α} {spell' : DialectProfile → β' → α'}

theorem ok (spell : DialectProfile → β → α) (b : β) : Planned spell fun p => .ok (spell p b) :=
  ⟨.ok b, fun _ => rfl⟩

theorem error (fault : Fault) : Planned spell fun _ => .error fault :=
  ⟨.error fault, fun _ => rfl⟩

theorem bind {x : DialectProfile → Except Fault α} {f : DialectProfile → α → Except Fault α'}
    (first : Planned spell x) (rest : ∀ b, Planned spell' fun p => f p (spell p b)) :
    Planned spell' fun p => x p >>= f p := by
  obtain ⟨plan, spelled⟩ := first
  choose next spelled' using rest
  refine ⟨plan >>= next, fun p => ?_⟩
  dsimp only
  rw [spelled]
  cases plan with
  | error _ => rfl
  | ok b => exact spelled' b p

/-- A step that no dialect takes part in. -/
theorem bind_plain (x : Except Fault β) {f : DialectProfile → β → Except Fault α'}
    (rest : ∀ b, Planned spell' fun p => f p b) : Planned spell' fun p => x >>= f p := by
  cases x with
  | error fault => exact error fault
  | ok b => exact rest b

theorem mapM {ι : Type} {f : DialectProfile → ι → Except Fault α} {xs : List ι}
    (each : ∀ x, Planned spell fun p => f p x) :
    Planned (fun p => List.map (spell p)) fun p => xs.mapM (f p) := by
  induction xs with
  | nil => exact ok _ []
  | cons x xs ih =>
    simp only [List.mapM_cons]
    refine (each x).bind fun b => ih.bind fun bs => ?_
    exact ok (fun p => List.map (spell p)) (b :: bs)

end Planned

namespace Graph

variable {g : Graph}

private theorem planned_columnSpec (t : TypeExpr) :
    Planned ColumnPlan.spelled fun p => (g.columnSpec p t).outcome := by
  simp only [outcome_columnSpec]
  refine .bind_plain _ fun (u, nullable) => ?_
  refine .bind_plain _ fun leaf => .bind_plain _ fun key => ?_
  exact .ok ColumnPlan.spelled ⟨leaf, nullable, key⟩

end Graph

namespace TableDecl

variable {g : Graph}

/-- A line with its foreign key, spelled in a dialect. -/
def spelledField (p : DialectProfile) (line : LinePlan × Option ForeignKey) :
    ColumnLine × Option ForeignKey :=
  (line.1.spelled p.typeOf, line.2)

private theorem planned_fieldLine (table : String) (isId : Bool) (field : Field) (column : String) :
    Planned spelledField fun p => (fieldLine g p table isId field column).outcome := by
  simp only [fieldLine, Journaled.outcome_bind, Journaled.outcome_monadLift]
  refine (Graph.planned_columnSpec field.type).bind fun c => .bind_plain _ fun comment => ?_
  let key := c.foreignKey.map fun target => ForeignKey.mk table column target.table target.column
  by_cases replaced : isId && column == idColumn
  · -- the line of the id takes the place of the field's own, whatever the field may hold
    refine ⟨.ok (.column idColumn .id false comment, key), fun p => ?_⟩
    simp only [replaced, ↓reduceIte, idCode, String.append_assoc]
    rfl
  · refine ⟨.ok (.column column (.holds c.leaf) c.nullable comment, key), fun p => ?_⟩
    simp only [replaced]
    rfl

/-- The line of the id, if it is shown. -/
def idPlan (isShown : Bool) : List LinePlan :=
  if isShown then [.column idColumn .id false .null] else []

private theorem spelled_idPlan (p : DialectProfile) (isShown : Bool) :
    (idPlan isShown).map (LinePlan.spelled p.typeOf) =
      if isShown then [⟨idCode p, .null⟩] else [] := by
  cases isShown with
  | false => rfl
  | true => simp [idPlan, LinePlan.spelled, idCode, DialectProfile.typeOf, String.append_assoc]

/-- The line of a primary key, if there is one. -/
def keyPlan (columns : List String) : List LinePlan :=
  if columns.isEmpty then [] else [.key columns]

private theorem spelled_keyPlan (typeOf : ColumnKind → String) (columns : List String) :
    (keyPlan columns).map (LinePlan.spelled typeOf) = keyLines columns := by
  rw [keyPlan, keyLines]
  split <;> rfl

private theorem planned_schema (t : TableDecl) :
    Planned (fun p => TablePlan.spelled p.typeOf) fun p => (t.schema g p).outcome := by
  simp only [TableDecl.schema, Journaled.outcome_bind, Journaled.outcome_monadLift]
  refine .bind_plain _ fun columns => ?_
  split
  all_goals
    simp only [Journaled.outcome_bind, Journaled.outcome_note, Journaled.outcome_mapM,
      Outcome.ok_bind]
    refine (Planned.mapM fun _ => planned_fieldLine _ _ _ _).bind fun lines => ?_
    refine .bind_plain _ fun key => .bind_plain _ fun indexes => .bind_plain _ fun uniques => ?_
    refine ⟨.ok {
      name := t.name
      moduleName := t.origin.moduleName
      declName := t.origin.decl.name
      lines := idPlan (t.request.withIdPrimaryKey && !t.fieldIsId columns) ++ lines.map (·.1)
        ++ keyPlan key
      foreignKeys := lines.filterMap (·.2)
      indexes := indexes
      uniques := uniques
      extraSql := t.request.extraSql
      primaryKey := key }, fun p => ?_⟩
    have fields : (lines.map (spelledField p)).map (·.1) =
        (lines.map (·.1)).map (LinePlan.spelled p.typeOf) := by
      simp [spelledField]
    have keys : (lines.map (spelledField p)).filterMap (·.2) = lines.filterMap (·.2) := by
      simp [List.filterMap_map, Function.comp_def, spelledField]
    simp [TablePlan.spelled, spelled_idPlan, spelled_keyPlan, fields, keys, Functor.map, Except.map]

end TableDecl

namespace TablePlan

/-- Whether a table can be written into a message does not depend on its types: they are texts. -/
theorem isSayable_spelled (t : TablePlan) (typeOf typeOf' : ColumnKind → String) :
    (t.spelled typeOf).toValue.isSayable = (t.spelled typeOf').toValue.isSayable := by
  have line (l : LinePlan) : (l.spelled typeOf).comment = (l.spelled typeOf').comment := by
    cases l <;> rfl
  have lines (ls : List LinePlan) :
      Value.areSayable ((ls.map (LinePlan.spelled typeOf)).map fun line =>
        .mapping [(.text "code", .text line.code), (.text "comment", line.comment)]) =
      Value.areSayable ((ls.map (LinePlan.spelled typeOf')).map fun line =>
        .mapping [(.text "code", .text line.code), (.text "comment", line.comment)]) := by
    induction ls with
    | nil => rfl
    | cons l rest ih =>
      simp only [List.map_cons, Value.areSayable, Value.isSayable, Value.areEntriesSayable, line,
        ih]
  simp only [spelled, TableSchema.toValue, Value.isSayable, Value.areEntriesSayable, lines]

end TablePlan

namespace Graph

private theorem planned_tableSchema (g : Graph) (t : TableDecl) :
    Planned (fun p => TablePlan.spelled p.typeOf) fun p => (g.tableSchema p t).outcome := by
  simp only [tableSchema, Journaled.outcome_bind, Journaled.outcome_monadLift,
    Journaled.outcome_note, Outcome.ok_bind]
  refine .bind_plain _ fun origin => (TableDecl.planned_schema t).bind fun plan => ?_
  have sayable (p : DialectProfile) := plan.isSayable_spelled p.typeOf fun _ => ""
  by_cases shown : (plan.spelled fun _ => "").toValue.isSayable
  · refine ⟨.ok plan, fun p => ?_⟩
    simp [Value.say, sayable, shown]
  · refine ⟨.error (.mishap .badValue), fun p => ?_⟩
    simp [Value.say, sayable, shown, Fault.breakDown]

end Graph

namespace Dialect

/-- A type with `jsonb` for `json`. -/
def jsonb (type : String) : String :=
  if type = "json" then "jsonb" else type

/-- The second form of Postgres has the types of the first, with `jsonb` for `json`. -/
theorem typeOf_postgresV2 :
    postgresV2.profile.typeOf = jsonb ∘ postgres.profile.typeOf := by
  have listed (k : String) : ((postgresTypes "jsonb").lookup k).getD "jsonb" =
      jsonb (((postgresTypes "json").lookup k).getD "json") := by
    simp only [postgresTypes, List.lookup_cons, List.lookup_nil]
    repeat' split
    all_goals decide
  have primitive (kind : Value) : postgresV2.profile.primitiveType kind =
      jsonb (postgres.profile.primitiveType kind) := by
    simp only [DialectProfile.primitiveType, profile]
    cases kind.text? with
    | none => rfl
    | some k => exact listed k
  funext kind
  cases kind with
  | id => decide +kernel
  | holds leaf => cases leaf with
    | primitive kind => exact primitive kind
    | optional => exact primitive (.text "Nullable")
    | reference => exact primitive (.text "Reference")
    | timestamp | date | localTimestamp | enumeration => decide +kernel

end Dialect

namespace Graph

/-- The schemas of a graph in all dialects come from one plan. Where the plan fails they all fail
with its fault; otherwise they agree on everything but the types of columns, and the type of each
column is what the dialect calls the kind of column that the plan says. In the second form of
Postgres these are the types of the first with `jsonb` for `json`. -/
theorem schemas_spelled (g : Graph) : ∃ plans : Except Fault (List TablePlan),
    (∀ p, (g.schemas p).outcome = List.map (TablePlan.spelled p.typeOf) <$> plans) ∧
    (g.schemas Dialect.postgresV2.profile).outcome =
      List.map (TablePlan.spelled (Dialect.jsonb ∘ Dialect.postgres.profile.typeOf)) <$> plans := by
  have planned : Planned (fun p => List.map (TablePlan.spelled p.typeOf))
      fun p => (g.schemas p).outcome := by
    simp only [schemas, Journaled.outcome_bind, Journaled.outcome_note, Journaled.outcome_mapM,
      Outcome.ok_bind]
    refine .bind_plain _ fun ts => ?_
    refine (Planned.mapM fun t => planned_tableSchema g t).bind fun plans => ?_
    exact .ok (fun p => List.map (TablePlan.spelled p.typeOf)) plans
  obtain ⟨plans, spelled⟩ := planned
  exact ⟨plans, spelled, Dialect.typeOf_postgresV2 ▸ spelled _⟩

end Graph

end AdlTables
