import AdlTables.Proofs.ConstraintNames

/-! # The names of foreign keys

A foreign key is named by its table and its column, with an underscore between them. Both are full
of underscores themselves, so a name does not tell where its column starts. The foreign keys of one
table still have different names, as their columns do. Those of two tables have one name exactly if
one table is called as the other with words behind, and the columns make up for these words.
-/

namespace AdlTables

namespace ForeignKey

variable {k k' : ForeignKey}

/-- The other key's table is called as this one's with words behind, and the column of this key is
called as the other's with the same words in front. -/
def Overlaps (k k' : ForeignKey) : Prop :=
  ∃ words, k'.table = k.table ++ "_" ++ words ∧ k.column = words ++ "_" ++ k'.column

private theorem overlaps_iff : k.Overlaps k' ↔ ∃ words : List Char,
    k'.table.toList = k.table.toList ++ '_' :: words ∧
      k.column.toList = words ++ '_' :: k'.column.toList := by
  simp only [Overlaps, ← String.toList_inj, String.toList_append]
  constructor
  · rintro ⟨words, table, column⟩
    exact ⟨words.toList, by simpa using table, by simpa using column⟩
  · rintro ⟨words, table, column⟩
    exact ⟨String.ofList words, by simpa using table, by simpa using column⟩

private theorem toList_name (k : ForeignKey) :
    k.name.toList = (k.table.toList ++ '_' :: k.column.toList) ++ "_fk".toList := by
  simp [name]

/-- Two foreign keys have one name exactly if they have one table and one column, or if one of them
overlaps the other. -/
theorem name_eq_iff : k.name = k'.name ↔
    k.table = k'.table ∧ k.column = k'.column ∨ k.Overlaps k' ∨ k'.Overlaps k := by
  rw [← String.toList_inj, toList_name, toList_name, List.append_left_inj,
    append_cons_eq_append_cons_iff, String.toList_inj, String.toList_inj, overlaps_iff,
    overlaps_iff]

private theorem length_lt_of_overlaps (overlaps : k.Overlaps k') :
    k.table.toList.length < k'.table.toList.length := by
  obtain ⟨words, longer, -⟩ := overlaps_iff.1 overlaps
  rw [longer, List.length_append, List.length_cons]
  omega

private theorem overlaps_iff_name_eq : k.Overlaps k' ↔
    k.name = k'.name ∧ k.table.toList.length < k'.table.toList.length := by
  constructor
  · intro overlaps
    exact ⟨name_eq_iff.2 (.inr (.inl overlaps)), length_lt_of_overlaps overlaps⟩
  · rintro ⟨same, shorter⟩
    obtain ⟨table, -⟩ | overlaps | overlaps := name_eq_iff.1 same
    · exact absurd (congrArg (·.toList.length) table) (Nat.ne_of_lt shorter)
    · exact overlaps
    · exact absurd (length_lt_of_overlaps overlaps) (Nat.lt_asymm shorter)

instance (k k' : ForeignKey) : Decidable (k.Overlaps k') :=
  decidable_of_iff' _ overlaps_iff_name_eq

def place (k : ForeignKey) : String × String :=
  (k.table, k.column)

/-- Foreign keys in different places have different names exactly if none of them overlaps
another. -/
theorem names_nodup_iff {keys : List ForeignKey} (places : (keys.map place).Nodup) :
    (keys.map name).Nodup ↔ ∀ k ∈ keys, ∀ k' ∈ keys, ¬ k.Overlaps k' := by
  constructor
  · intro different k isKey k' isKey' overlaps
    have same : k = k' := List.inj_on_of_nodup_map different isKey isKey'
      (name_eq_iff.2 (.inr (.inl overlaps)))
    exact absurd (length_lt_of_overlaps overlaps) (same ▸ Nat.lt_irrefl _)
  · intro free
    refine List.pairwise_map.2 ((List.pairwise_map.1 places).imp_of_mem ?_)
    intro k k' isKey isKey' differ same
    obtain ⟨table, column⟩ | overlaps | overlaps := name_eq_iff.1 same
    · exact differ (Prod.ext table column)
    · exact free k isKey k' isKey' overlaps
    · exact free k' isKey' k isKey overlaps

end ForeignKey

def TableSchema.foreignKeyNames (s : TableSchema) : List String :=
  s.foreignKeys.map (·.name)

def Field.HaveDistinctColumns (fields : List Field) : Prop :=
  ∀ columns, fields.mapM Field.columnName = .ok columns → columns.Nodup

instance (fields : List Field) : Decidable (Field.HaveDistinctColumns fields) :=
  match named : fields.mapM Field.columnName with
  | .ok columns => decidable_of_iff columns.Nodup <| by
      simp [Field.HaveDistinctColumns, named]
  | .error _ => isTrue <| by simp [Field.HaveDistinctColumns, named]

namespace TableDecl.Makes

variable {g : Graph} {p : DialectProfile} {t : TableDecl} {s : TableSchema}
  {columns : List String} {lines : List (ColumnLine × Option ForeignKey)}
  (of : Makes g p t columns lines s)

include of

/-- The columns of foreign keys are columns of fields, in the order of the fields. -/
theorem keyColumns_sublist : (s.foreignKeys.map (·.column)).Sublist columns := by
  have length := (Outcome.mapM_eq_ok.1 of.named).length_eq
  have related := Outcome.mapM_eq_ok.1 of.each
  rw [of.foreignKeys, ← List.map_snd_zip (Nat.le_of_eq length.symm)]
  generalize t.fields.zip columns = pairs at related ⊢
  clear of
  induction related with
  | nil => exact .slnil
  | @cons pair line pairs lines made _ ih =>
    obtain ⟨spec, _, _, _, _, keyed⟩ := fieldLine_eq_ok.1 made
    cases target : spec.foreignKey with
    | none =>
      rw [target] at keyed
      rw [List.filterMap_cons_none keyed, List.map_cons]
      exact ih.cons _
    | some ref =>
      rw [target] at keyed
      rw [List.filterMap_cons_some keyed, List.map_cons, List.map_cons]
      exact ih.cons_cons _

/-- The foreign keys of a table whose fields have different columns stand in different places. -/
theorem keyPlaces_nodup (distinct : columns.Nodup) : (s.foreignKeys.map (·.place)).Nodup := by
  have apart := distinct.sublist of.keyColumns_sublist
  refine List.pairwise_map.2 ((List.pairwise_map.1 apart).imp fun differ same => ?_)
  exact differ (Prod.mk.inj same).2

end TableDecl.Makes

namespace Graph

variable {g : Graph} {p : DialectProfile} {schemas : List TableSchema}

def HasDistinctColumns (g : Graph) : Prop :=
  g.Every fun d => d.isTable → Field.HaveDistinctColumns (d.body.fields?.getD [])

instance (g : Graph) : Decidable g.HasDistinctColumns := by
  unfold HasDistinctColumns
  infer_instance

theorem HasDistinctColumns.of_mem {ts : List TableDecl} (apart : g.HasDistinctColumns)
    (listed : g.tables.outcome = .ok ts) {t : TableDecl} (isTable : t ∈ ts) :
    Field.HaveDistinctColumns t.fields := by
  obtain ⟨entry, inGraph, e, inModule, asked⟩ := (mem_tables listed).1 isTable
  have selects := (KeptDecl.ofDecl_eq_ok (x := .ofEntries entry e)).1 asked
  obtain ⟨params, struct⟩ := selects.fields
  have distinct := apart entry inGraph e inModule selects.isTable
  rwa [show e.2.body = .struct params t.fields from struct] at distinct

section

variable (mapped : (g.schemas p).outcome = .ok schemas) (apart : g.HasDistinctColumns)

include mapped apart

private theorem keys_of_mem {s : TableSchema} (member : s ∈ schemas) :
    (∀ k ∈ s.foreignKeys, k.table = s.name) ∧ (s.foreignKeys.map (·.place)).Nodup := by
  obtain ⟨ts, listed, each⟩ := schemas_eq_ok mapped
  obtain ⟨t, isTable, made⟩ := (Outcome.mem_of_mapM each).1 member
  obtain ⟨columns, lines, of⟩ := TableDecl.makes_of_schema made
  have distinct : columns.Nodup := apart.of_mem listed isTable columns of.named
  exact ⟨fun k isKey => (of.foreignKey_declared isKey).1, of.keyPlaces_nodup distinct⟩

/-- The foreign keys of tables with different names stand in different places. -/
theorem keyPlaces_nodup (distinct : (schemas.map (·.name)).Nodup) :
    ((schemas.flatMap (·.foreignKeys)).map (·.place)).Nodup := by
  rw [List.map_flatMap, List.nodup_flatMap]
  refine ⟨fun s member => (keys_of_mem mapped apart member).2, ?_⟩
  refine (List.pairwise_map.1 distinct).imp_of_mem fun {s s'} member member' differ => ?_
  intro place here there
  obtain ⟨k, isKey, rfl⟩ := List.mem_map.1 here
  obtain ⟨k', isKey', same⟩ := List.mem_map.1 there
  have table : k.table = s.name := (keys_of_mem mapped apart member).1 k isKey
  have table' : k'.table = s'.name := (keys_of_mem mapped apart member').1 k' isKey'
  exact differ (table.symm.trans ((Prod.mk.inj same).1.symm.trans table'))

end

namespace Orders

open KeyOfShape (declare)

def itemKey (name : String) : Field :=
  Standard.field name (.reference .dbKey [.reference (.ofTexts "m" "Item") []])

/-- Order lines, each with a key of an item by some name, and orders with one of a line item. -/
def orders (name : String) : Graph :=
  ⟨Standard.modules ++ [(.text "m", Standard.moduleOf "m" [
    declare "Item" (.struct [] []) true,
    declare "OrderLine" (.struct [] [itemKey name]) false,
    declare "Order" (.struct [] [itemKey "lineItem"]) false])]⟩

section

variable (name : String)

private theorem keyed_orders : (orders name).Keyed where
  modules := of_decide_eq_true rfl
  decls := of_decide_eq_true rfl
  keys := of_decide_eq_true rfl

private theorem hasTextKeys_orders : (orders name).HasTextKeys :=
  of_decide_eq_true rfl

private theorem named_orders : ∀ x ∈ (orders name).kept, x.decl.name.text?.isSome :=
  of_decide_eq_true rfl

private theorem hasDistinctColumns_orders : (orders name).HasDistinctColumns :=
  of_decide_eq_true rfl

end

/-- What is shown of a table: its name and its foreign keys. -/
def shown (s : TableSchema) : String × List ForeignKey :=
  (s.name, s.foreignKeys)

/-- The foreign keys of an order line, whose column is given, and of an order. -/
def keys (column : String) : List ForeignKey :=
  [⟨"order_line", column, "item", "id"⟩, ⟨"order", "line_item", "item", "id"⟩]

def tables (column : String) : List (String × List ForeignKey) :=
  ("item", []) :: (keys column).map fun k => (k.table, [k])

/-- Whether all tables of orders are mapped in a dialect, each with its foreign keys. -/
def IsMapped (name column : String) (d : Dialect) : Prop :=
  (∀ entry ∈ (orders name).modules, ∀ e ∈ entry.2.decls,
    (orders name).maps d.profile ⟨entry.1, e.2⟩) ∧
  ((orders name).kept.filterMap asked?).map (fun e =>
    (e.2.schema (orders name) d.profile).outcome.toOption.map shown) = (tables column).map some

instance (name column : String) (d : Dialect) : Decidable (IsMapped name column d) := by
  unfold IsMapped
  infer_instance

private theorem exists_schemas_orders {name column : String} {d : Dialect}
    (isMapped : IsMapped name column d) :
    ∃ schemas, ((orders name).schemas d.profile).outcome = .ok schemas ∧
      (schemas.map (·.name)).Nodup ∧
      (schemas.flatMap (·.foreignKeys)).Perm (keys column) := by
  obtain ⟨each, items⟩ := isMapped
  have texts : (orders name).HasTextKeys := hasTextKeys_orders name
  obtain ⟨schemas, mapped⟩ := exists_schemas texts each
  have asked := (schemas_perm texts (named_orders name) (keyed_orders name) mapped).map
    (Option.map shown)
  rw [List.map_map, List.map_map, Function.comp_def, Function.comp_def, items] at asked
  have perm : (schemas.map shown).Perm (tables column) := by
    refine (List.map_perm_map_iff (Option.some_injective _)).1 ?_
    rw [List.map_map]
    exact asked
  refine ⟨schemas, mapped, ?_, ?_⟩
  · have names := perm.map Prod.fst
    rw [List.map_map] at names
    exact names.nodup_iff.2 (of_decide_eq_true rfl)
  · have foreign := perm.flatMap_right Prod.snd
    rw [List.flatMap_map] at foreign
    exact foreign

end Orders

/-- Where the tables of a graph have different names, and the columns of each do, the foreign keys
of each table, which are named by it, have different names. Those of all tables have different names
exactly if none of them overlaps another. -/
theorem foreignKeyNames_nodup_iff (mapped : (g.schemas p).outcome = .ok schemas)
    (distinct : (schemas.map (·.name)).Nodup) (apart : g.HasDistinctColumns) :
    (∀ s ∈ schemas, (∀ k ∈ s.foreignKeys, k.table = s.name) ∧ s.foreignKeyNames.Nodup) ∧
    ((schemas.flatMap TableSchema.foreignKeyNames).Nodup ↔
      ∀ k ∈ schemas.flatMap (·.foreignKeys), ∀ k' ∈ schemas.flatMap (·.foreignKeys),
        ¬ k.Overlaps k') := by
  constructor
  · intro s member
    obtain ⟨ofTable, places⟩ := keys_of_mem mapped apart member
    refine ⟨ofTable, (ForeignKey.names_nodup_iff places).2 fun k isKey k' isKey' overlaps => ?_⟩
    have shorter := ForeignKey.length_lt_of_overlaps overlaps
    rw [ofTable k isKey, ofTable k' isKey'] at shorter
    exact Nat.lt_irrefl _ shorter
  · rw [← ForeignKey.names_nodup_iff (keyPlaces_nodup mapped apart distinct), List.map_flatMap]
    rfl

open Orders

/-- The names of foreign keys do not always differ: the item of an order line and the line item of
an order have one. -/
theorem foreignKeyNames_not_always_nodup : ¬ ∀ (g : Graph) (d : Dialect)
    (schemas : List TableSchema), (g.schemas d.profile).outcome = .ok schemas →
      (schemas.map (·.name)).Nodup → g.HasDistinctColumns →
        (schemas.flatMap TableSchema.foreignKeyNames).Nodup := by
  intro always
  have isMapped : IsMapped "item" "item" .mssql := by decide +kernel
  obtain ⟨schemas, mapped, distinct, perm⟩ := exists_schemas_orders isMapped
  have different := always _ _ schemas mapped distinct (hasDistinctColumns_orders _)
  have names := perm.map ForeignKey.name
  rw [List.map_flatMap] at names
  exact absurd (names.nodup_iff.1 different) (by decide)

/-- An order line with a product, and an order with a line item, have foreign keys with different
names. -/
theorem foreignKeyNames_orders : ∃ schemas,
    ((orders "product").schemas Dialect.mssql.profile).outcome = .ok schemas ∧
    (schemas.map (·.name)).Nodup ∧ (orders "product").HasDistinctColumns ∧
    (schemas.flatMap TableSchema.foreignKeyNames).Nodup ∧
    (schemas.flatMap (·.foreignKeys)).Perm (keys "product") := by
  have isMapped : IsMapped "product" "product" .mssql := by decide +kernel
  obtain ⟨schemas, mapped, distinct, perm⟩ := exists_schemas_orders isMapped
  have apart : (orders "product").HasDistinctColumns := hasDistinctColumns_orders _
  have free : ∀ k ∈ keys "product", ∀ k' ∈ keys "product", ¬ k.Overlaps k' := by decide
  refine ⟨schemas, mapped, distinct, apart, ?_, perm⟩
  refine (foreignKeyNames_nodup_iff mapped distinct apart).2.2 fun k isKey k' isKey' => ?_
  exact free k (perm.mem_iff.1 isKey) k' (perm.mem_iff.1 isKey')

end Graph

end AdlTables
