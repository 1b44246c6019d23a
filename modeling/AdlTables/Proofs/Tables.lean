import AdlTables.Proofs.Declared
import AdlTables.Table

/-! # The tables of a graph

Each struct of a graph that is annotated as a table is one of its tables, and nothing else is. The
schema of a table is made of its fields, one after another, so every line and every foreign key goes
back to a field or to what the annotation asks for.
-/

namespace AdlTables

/-- Sorting by keys only reorders. -/
theorem Value.sortByKey_perm {α : Type} {pairs sorted : List (Value × α)}
    (ordered : Value.sortByKey pairs = .ok sorted) : sorted.Perm pairs := by
  unfold Value.sortByKey at ordered
  split at ordered
  · cases ordered
    rfl
  · cases ordered
    rfl
  · split at ordered
    · cases ordered
      exact List.mergeSort_perm _ _
    · cases ordered

/-- Texts can be sorted. -/
theorem Value.sortByKey_of_texts {α : Type} {pairs : List (Value × α)}
    (texts : ∀ x ∈ pairs, x.1.text?.isSome) : ∃ sorted, Value.sortByKey pairs = .ok sorted := by
  unfold Value.sortByKey
  split
  · exact ⟨_, rfl⟩
  · exact ⟨_, rfl⟩
  · have all : (pairs.map (·.1)).all (·.text?.isSome) := by simpa using texts
    simp [order?, all]

namespace TableDecl

variable {d : ScopedDecl} {t : TableDecl}

/-- A declaration is a table exactly if it is a struct that is annotated as one. -/
theorem ofDecl_eq_ok : (ofDecl d).outcome = .ok (some t) ↔
    ∃ request params fields name, d.decl.table = some request ∧
      d.decl.body = .struct params fields ∧ d.decl.tableName = .ok name ∧
        t = ⟨d, fields, request, name⟩ := by
  unfold ofDecl
  split
  · rename_i unannotated
    simp [unannotated]
  · rename_i request params fields annotated struct
    simp only [Journaled.outcome_bind, Journaled.outcome_monadLift, Journaled.outcome_pure,
      Outcome.bind_eq_ok, Except.ok.injEq, Option.some.injEq, annotated, struct, Body.struct.injEq]
    constructor
    · rintro ⟨name, named, rfl⟩
      exact ⟨request, params, fields, name, rfl, ⟨rfl, rfl⟩, named, rfl⟩
    · rintro ⟨_, _, _, name, rfl, ⟨rfl, rfl⟩, named, rfl⟩
      exact ⟨name, named, rfl⟩
  · rename_i noStruct
    constructor
    · simp [Outcome.bind_eq_ok]
    · rintro ⟨_, params, fields, _, _, struct, _⟩
      exact (noStruct params fields struct).elim

end TableDecl

namespace Graph

variable {g : Graph} {ts : List TableDecl} {t : TableDecl}

private theorem mem_declsOf {entry : Value × Module} {ds : List ScopedDecl}
    (listed : declsOf entry = .ok ds) {d : ScopedDecl} :
    d ∈ ds ↔ ∃ e ∈ entry.2.decls, ⟨entry.1, e.2⟩ = d := by
  obtain ⟨sorted, ordered, made⟩ := Outcome.bind_eq_ok.1 listed
  cases made
  simp [(Value.sortByKey_perm ordered).mem_iff]

private theorem mem_ofModule {entry : Value × Module}
    (listed : (TableDecl.ofModule entry).outcome = .ok ts) :
    t ∈ ts ↔ ∃ e ∈ entry.2.decls, (TableDecl.ofDecl ⟨entry.1, e.2⟩).outcome = .ok (some t) := by
  simp only [TableDecl.ofModule, Journaled.outcome_bind, Journaled.outcome_monadLift,
    Journaled.outcome_mapM, Outcome.bind_eq_ok, Journaled.outcome_pure, Except.ok.injEq] at listed
  obtain ⟨ds, sorted, found, each, rfl⟩ := listed
  simp only [List.mem_filterMap, id_eq, exists_eq_right, Outcome.mem_of_mapM each,
    mem_declsOf sorted]
  constructor
  · rintro ⟨d, ⟨e, member, rfl⟩, made⟩
    exact ⟨e, member, made⟩
  · rintro ⟨e, member, made⟩
    exact ⟨_, ⟨e, member, rfl⟩, made⟩

/-- The tables of a graph are those that its declarations ask for. -/
theorem mem_tables (listed : g.tables.outcome = .ok ts) : t ∈ ts ↔
    ∃ entry ∈ g.modules, ∃ e ∈ entry.2.decls,
      (TableDecl.ofDecl ⟨entry.1, e.2⟩).outcome = .ok (some t) := by
  simp only [tables, Journaled.outcome_bind, Journaled.outcome_monadLift,
    Journaled.outcome_mapM, Outcome.bind_eq_ok, Journaled.outcome_pure, Except.ok.injEq] at listed
  obtain ⟨modules, ordered, found, each, rfl⟩ := listed
  simp only [(List.mergeSort_perm _ _).mem_iff, List.mem_flatten, Outcome.mem_of_mapM each]
  constructor
  · rintro ⟨ts, ⟨entry, member, given⟩, inModule⟩
    exact ⟨entry, (Value.sortByKey_perm ordered).mem_iff.1 member, (mem_ofModule given).1 inModule⟩
  · rintro ⟨entry, member, made⟩
    obtain ⟨ts, _, given⟩ :=
      Outcome.exists_of_mapM each ((Value.sortByKey_perm ordered).mem_iff.2 member)
    exact ⟨ts, ⟨entry, (Value.sortByKey_perm ordered).mem_iff.2 member, given⟩,
      (mem_ofModule given).2 made⟩

end Graph

namespace TableDecl

variable {g : Graph} {p : DialectProfile} {t : TableDecl} {s : TableSchema}

/-- The line of a field and its foreign key come from the field's column. -/
theorem fieldLine_eq_ok {table column : String} {isId : Bool} {field : Field} {line : ColumnLine}
    {key : Option ForeignKey} : (fieldLine g p table isId field column).outcome = .ok (line, key) ↔
      ∃ spec comment, (g.columnSpec p field.type).outcome = .ok spec ∧
        field.type.label .comment = .ok comment ∧
        line = ⟨if isId && column == idColumn then idCode p else column ++ " " ++ spec.type,
          comment⟩ ∧
        key = spec.foreignKey.map fun target => ⟨table, column, target.table, target.column⟩ := by
  simp only [fieldLine, Journaled.outcome_bind, Journaled.outcome_monadLift, Journaled.outcome_pure,
    Outcome.bind_eq_ok, Except.ok.injEq, Prod.mk.injEq]
  constructor
  · rintro ⟨spec, mapped, comment, labelled, rfl, rfl⟩
    exact ⟨spec, comment, mapped, labelled, rfl, rfl⟩
  · rintro ⟨spec, comment, mapped, labelled, rfl, rfl⟩
    exact ⟨spec, mapped, comment, labelled, rfl, rfl⟩

/-- What a table's schema is made of, from the columns of its fields and the line of each of them
with its foreign key. -/
structure Makes (g : Graph) (p : DialectProfile) (t : TableDecl) (columns : List String)
    (lines : List (ColumnLine × Option ForeignKey)) (s : TableSchema) : Prop where
  named : t.fields.mapM Field.columnName = .ok columns
  each : (t.fields.zip columns).mapM (fun (field, column) =>
    (fieldLine g p t.name (t.fieldIsId columns) field column).outcome) = .ok lines
  name : s.name = t.name
  moduleName : s.moduleName = t.origin.moduleName
  declName : s.declName = t.origin.decl.name
  foreignKeys : s.foreignKeys = lines.filterMap (·.2)
  primaryKey : t.primaryKey.outcome = .ok s.primaryKey
  indexes : indexesOf t.name t.fields t.request = .ok s.indexes
  uniques : uniquesOf t.name t.fields t.request = .ok s.uniques
  written : s.lines = (if t.request.withIdPrimaryKey && !t.fieldIsId columns
    then [⟨idCode p, .null⟩] else []) ++ lines.map (·.1) ++ keyLines s.primaryKey

theorem makes_of_schema (made : (t.schema g p).outcome = .ok s) :
    ∃ columns lines, Makes g p t columns lines s := by
  simp only [schema, Journaled.outcome_bind, Journaled.outcome_monadLift,
    Outcome.bind_eq_ok] at made
  obtain ⟨columns, named, made⟩ := made
  split at made
  all_goals
    simp only [Journaled.outcome_bind, Journaled.outcome_note, Journaled.outcome_monadLift,
      Journaled.outcome_mapM, Journaled.outcome_pure, Outcome.ok_bind, Outcome.bind_eq_ok,
      Except.ok.injEq] at made
    obtain ⟨lines, each, key, keyed, indexes, indexed, uniques, constrained, rfl⟩ := made
    exact ⟨columns, lines, named, each, rfl, rfl, rfl, rfl, keyed, indexed, constrained, rfl⟩

/-- A foreign key of a schema is that of the column of a field. -/
theorem Makes.exists_field {columns : List String} {lines : List (ColumnLine × Option ForeignKey)}
    (of : Makes g p t columns lines s) {k : ForeignKey} (member : k ∈ s.foreignKeys) :
    ∃ f column spec ref, (f, column) ∈ t.fields.zip columns ∧
      (g.columnSpec p f.type).outcome = .ok spec ∧ spec.foreignKey = some ref ∧
        k = ⟨t.name, column, ref.table, ref.column⟩ := by
  rw [of.foreignKeys, List.mem_filterMap] at member
  obtain ⟨⟨line, key⟩, among, rfl⟩ := member
  obtain ⟨⟨f, column⟩, zipped, fieldMade⟩ := (Outcome.mem_of_mapM of.each).1 among
  obtain ⟨spec, _, mapped, _, _, keyed⟩ := fieldLine_eq_ok.1 fieldMade
  obtain ⟨ref, isKey, rfl⟩ := Option.map_eq_some_iff.1 keyed.symm
  exact ⟨f, column, spec, ref, zipped, mapped, isKey, rfl⟩

end TableDecl

namespace Graph

variable {g : Graph} {p : DialectProfile} {schemas : List TableSchema}

/-- The schemas of a graph are those of its tables, one for each. -/
theorem schemas_eq_ok (mapped : (g.schemas p).outcome = .ok schemas) :
    ∃ ts, g.tables.outcome = .ok ts ∧ ts.mapM (fun t => (t.schema g p).outcome) = .ok schemas := by
  simp only [Graph.schemas, Journaled.outcome_bind, Journaled.outcome_note, Journaled.outcome_mapM,
    Journaled.outcome_pure, Outcome.ok_bind, Outcome.bind_eq_ok, Except.ok.injEq] at mapped
  obtain ⟨ts, listed, _, each, rfl⟩ := mapped
  refine ⟨ts, listed, Outcome.mapM_eq_ok.2 ((Outcome.mapM_eq_ok.1 each).imp fun t s made => ?_)⟩
  simp only [tableSchema, Journaled.outcome_bind, Journaled.outcome_note,
    Journaled.outcome_monadLift, Journaled.outcome_pure, Outcome.ok_bind, Outcome.bind_eq_ok,
    Except.ok.injEq] at made
  obtain ⟨_, _, _, given, _, _, rfl⟩ := made
  exact given

/-- Whether all names under which a graph keeps modules and declarations are texts. -/
def HasTextKeys (g : Graph) : Prop :=
  ∀ entry ∈ g.modules, entry.1.text?.isSome ∧ ∀ e ∈ entry.2.decls, e.1.text?.isSome

instance (g : Graph) : Decidable g.HasTextKeys := by
  unfold HasTextKeys
  infer_instance

/-- Whether a declaration is no table or one that has a schema. -/
def maps (g : Graph) (p : DialectProfile) (d : ScopedDecl) : Bool :=
  match (TableDecl.ofDecl d).outcome with
  | .ok (some t) => (g.tableSchema p t).outcome.toBool
  | .ok none => true
  | .error _ => false

private theorem ofDecl_of_maps {d : ScopedDecl} (mapped : g.maps p d) :
    ∃ o, (TableDecl.ofDecl d).outcome = .ok o ∧
      ∀ t ∈ o, ∃ s, (g.tableSchema p t).outcome = .ok s := by
  unfold maps at mapped
  split at mapped
  · rename_i t asked
    refine ⟨some t, asked, fun t' same => ?_⟩
    obtain rfl := Option.some.inj same
    cases made : (g.tableSchema p t).outcome with
    | ok s => exact ⟨s, rfl⟩
    | error fault => simp [made, Except.toBool] at mapped
  · rename_i asked
    exact ⟨none, asked, by simp⟩
  · cases mapped

/-- The tables of a graph can be listed if its names are texts and every declaration is mapped. -/
private theorem exists_tables (keys : g.HasTextKeys)
    (each : ∀ entry ∈ g.modules, ∀ e ∈ entry.2.decls, g.maps p ⟨entry.1, e.2⟩) :
    ∃ ts, g.tables.outcome = .ok ts := by
  obtain ⟨modules, ordered⟩ := Value.sortByKey_of_texts fun entry inGraph => (keys entry inGraph).1
  have ofEach entry (member : entry ∈ modules) :
      ∃ ts, (TableDecl.ofModule entry).outcome = .ok ts := by
    have inGraph := (Value.sortByKey_perm ordered).mem_iff.1 member
    obtain ⟨sorted, declsOrdered⟩ := Value.sortByKey_of_texts (keys entry inGraph).2
    have listed : declsOf entry = .ok (sorted.map fun e => ⟨entry.1, e.2⟩) := by
      simp [declsOf, declsOrdered]
    obtain ⟨os, found⟩ := Outcome.mapM_of_forall (f := fun d => (TableDecl.ofDecl d).outcome)
      fun d among => by
        obtain ⟨e, inModule, rfl⟩ := (mem_declsOf listed).1 among
        exact (ofDecl_of_maps (each entry inGraph e inModule)).imp fun _ asked => asked.1
    exact ⟨os.filterMap id, by simp [TableDecl.ofModule, listed, found]⟩
  obtain ⟨found, listed⟩ := Outcome.mapM_of_forall ofEach
  exact ⟨found.flatten.mergeSort fun a b => a.name ≤ b.name, by simp [tables, ordered, listed]⟩

/-- A graph has schemas if its names are texts and every declaration is mapped. -/
theorem exists_schemas (keys : g.HasTextKeys)
    (each : ∀ entry ∈ g.modules, ∀ e ∈ entry.2.decls, g.maps p ⟨entry.1, e.2⟩) :
    ∃ schemas, (g.schemas p).outcome = .ok schemas := by
  obtain ⟨ts, listed⟩ := exists_tables keys each
  obtain ⟨schemas, made⟩ := Outcome.mapM_of_forall (f := fun t => (g.tableSchema p t).outcome)
    fun t member => by
      obtain ⟨entry, inGraph, e, inModule, asked⟩ := (mem_tables listed).1 member
      obtain ⟨o, given, mapped⟩ := ofDecl_of_maps (each entry inGraph e inModule)
      exact mapped t (Except.ok.inj (given.symm.trans asked))
  exact ⟨schemas, by simp [Graph.schemas, listed, made]⟩

end Graph

end AdlTables
