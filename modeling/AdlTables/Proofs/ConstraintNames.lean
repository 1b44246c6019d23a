import AdlTables.Proofs.Selection
import AdlTables.Proofs.TableColumns

/-! # The names of constraints

An index and a uniqueness constraint are named by their table, by their number in it and by an
ending for each of the two kinds. A table's name may itself end in an underscore and digits, as a
number does. Still a name can be taken apart again: both endings are of one length, a number has no
underscore, and so the last underscore before the ending is the one behind the table's name. Tables
with different names therefore never have constraints of one name.
-/

namespace AdlTables

/-- Lists that are joined around an item are the same exactly if both parts are, or if one of the
joints stands inside a part of the other join. -/
theorem append_cons_eq_append_cons_iff {α : Type} {x : α} {front front' back back' : List α} :
    front ++ x :: back = front' ++ x :: back' ↔ front = front' ∧ back = back' ∨
      (∃ middle, front' = front ++ x :: middle ∧ back = middle ++ x :: back') ∨
      ∃ middle, front = front' ++ x :: middle ∧ back' = middle ++ x :: back := by
  constructor
  · intro joined
    obtain ⟨more, longer, rest⟩ | ⟨more, longer, rest⟩ := List.append_eq_append_iff.1 joined
    · cases more with
      | nil =>
        obtain ⟨-, same⟩ := List.cons.inj rest
        exact .inl ⟨by rw [longer, List.append_nil], same⟩
      | cons y middle =>
        obtain ⟨rfl, inside⟩ := List.cons.inj rest
        exact .inr (.inl ⟨middle, longer, inside⟩)
    · cases more with
      | nil =>
        obtain ⟨-, same⟩ := List.cons.inj rest
        exact .inl ⟨by rw [longer, List.append_nil], same.symm⟩
      | cons y middle =>
        obtain ⟨rfl, inside⟩ := List.cons.inj rest
        exact .inr (.inr ⟨middle, longer, inside⟩)
  · rintro (⟨rfl, rfl⟩ | ⟨middle, rfl, rfl⟩ | ⟨middle, rfl, rfl⟩)
    · rfl
    · rw [List.append_assoc, List.cons_append]
    · rw [List.append_assoc, List.cons_append]

/-- Where the item is not in the second parts, the joint is the last place it stands at. -/
theorem append_cons_inj_of_last {α : Type} {x : α} {front front' back back' : List α}
    (last : x ∉ back) (last' : x ∉ back') (joined : front ++ x :: back = front' ++ x :: back') :
    front = front' ∧ back = back' := by
  obtain same | ⟨middle, -, rfl⟩ | ⟨middle, -, rfl⟩ := append_cons_eq_append_cons_iff.1 joined
  · exact same
  · exact (last (List.mem_append_right _ List.mem_cons_self)).elim
  · exact (last' (List.mem_append_right _ List.mem_cons_self)).elim

/-- The name of a constraint that has a number in its table. -/
def numberedName (table : String) (number : Nat) (ending : String) : String :=
  table ++ "_" ++ toString number ++ ending

private theorem toList_numberedName (table : String) (number : Nat) (ending : String) :
    (numberedName table number ending).toList =
      (table.toList ++ '_' :: Nat.toDigits 10 number) ++ ending.toList := by
  simp [numberedName]

private theorem toDigits_inj {m n : Nat} (same : Nat.toDigits 10 m = Nat.toDigits 10 n) : m = n :=
  calc
    m = Nat.ofDigitChars 10 (Nat.toDigits 10 m) 0 := Nat.ofDigitChars_ten_toDigits.symm
    _ = Nat.ofDigitChars 10 (Nat.toDigits 10 n) 0 := by rw [same]
    _ = n := Nat.ofDigitChars_ten_toDigits

/-- The table, the number and the ending of a name are settled by it, as far as endings are of one
length. -/
theorem numberedName_inj {table table' ending ending' : String} {number number' : Nat}
    (level : ending.length = ending'.length)
    (same : numberedName table number ending = numberedName table' number' ending') :
    table = table' ∧ number = number' ∧ ending = ending' := by
  have chars := congrArg String.toList same
  rw [toList_numberedName, toList_numberedName] at chars
  rw [← String.length_toList, ← String.length_toList] at level
  -- the endings come off by their length, and then the last underscore stands before the number
  obtain ⟨numbered, endings⟩ := List.append_inj' chars level
  obtain ⟨tables, digits⟩ := append_cons_inj_of_last Nat.underscore_not_in_toDigits
    Nat.underscore_not_in_toDigits numbered
  exact ⟨String.toList_inj.1 tables, toDigits_inj digits, String.toList_inj.1 endings⟩

/-- The names of the indexes and of the uniqueness constraints of a table. -/
def TableSchema.constraintNames (s : TableSchema) : List String :=
  s.indexes.map (·.name) ++ s.uniques.map (·.name)

namespace TableDecl

/-- The names that a table gives to a count of constraints with an ending. -/
def numberedNames (t : TableDecl) (count : Nat) (ending : String) : List String :=
  (List.range' 1 count).map (numberedName t.name · ending)

def constraintNames (t : TableDecl) : List String :=
  t.numberedNames t.request.indexes.length "_idx" ++
    t.numberedNames t.request.uniquenessConstraints.length "_con"

variable {g : Graph} {p : DialectProfile} {t t' : TableDecl} {s : TableSchema}
  {name ending ending' : String} {count count' : Nat}

private theorem mem_numberedNames : name ∈ t.numberedNames count ending ↔
    ∃ number ∈ List.range' 1 count, numberedName t.name number ending = name :=
  List.mem_map

private theorem numberedNames_nodup (t : TableDecl) (count : Nat) (ending : String) :
    (t.numberedNames count ending).Nodup :=
  List.Nodup.map (fun _ _ same => (numberedName_inj rfl same).2.1) List.nodup_range'

/-- A name is that of one table and has one ending. -/
theorem eq_of_mem_numberedNames (level : ending.length = ending'.length)
    (member : name ∈ t.numberedNames count ending)
    (member' : name ∈ t'.numberedNames count' ending') : t.name = t'.name ∧ ending = ending' := by
  obtain ⟨number, _, rfl⟩ := mem_numberedNames.1 member
  obtain ⟨number', _, same⟩ := mem_numberedNames.1 member'
  obtain ⟨tables, -, endings⟩ := numberedName_inj level.symm same
  exact ⟨tables.symm, endings.symm⟩

private theorem constraintNames_nodup_of_table (t : TableDecl) : t.constraintNames.Nodup := by
  rw [constraintNames, List.nodup_append]
  refine ⟨t.numberedNames_nodup _ _, t.numberedNames_nodup _ _, ?_⟩
  rintro name isIndex _ isUnique rfl
  exact absurd (eq_of_mem_numberedNames (by decide) isIndex isUnique).2 (by decide)

/-- A name that two tables have for constraints of theirs is of tables with one name. -/
theorem name_eq_of_mem_constraintNames (member : name ∈ t.constraintNames)
    (member' : name ∈ t'.constraintNames) : t.name = t'.name := by
  rw [constraintNames, List.mem_append] at member member'
  rcases member with isIndex | isUnique <;> rcases member' with isIndex' | isUnique'
  · exact (eq_of_mem_numberedNames (by decide) isIndex isIndex').1
  · exact (eq_of_mem_numberedNames (by decide) isIndex isUnique').1
  · exact (eq_of_mem_numberedNames (by decide) isUnique isIndex').1
  · exact (eq_of_mem_numberedNames (by decide) isUnique isUnique').1

private theorem numbers_of_numberedColumns {fields : List Field} {lists : List (List String)}
    {numbered : List (Nat × List String)} (made : numberedColumns fields lists = .ok numbered) :
    numbered.map (·.1) = List.range' 1 lists.length := by
  obtain ⟨used, each, numbers⟩ := Outcome.bind_eq_ok.1 made
  obtain rfl := Except.ok.inj numbers
  have length := (Outcome.mapM_eq_ok.1 each).length_eq
  refine List.ext_getElem (by simp [length]) fun i here there => ?_
  simp [Nat.add_comm]

private theorem indexNames_eq (made : indexesOf t.name t.fields t.request = .ok s.indexes) :
    s.indexes.map (·.name) = t.numberedNames t.request.indexes.length "_idx" := by
  obtain ⟨numbered, columns, indexes⟩ := Outcome.bind_eq_ok.1 made
  rw [← Except.ok.inj indexes, numberedNames, ← numbers_of_numberedColumns columns]
  simp [Index.numbered, numberedName, Function.comp_def]

private theorem uniqueNames_eq (made : uniquesOf t.name t.fields t.request = .ok s.uniques) :
    s.uniques.map (·.name) = t.numberedNames t.request.uniquenessConstraints.length "_con" := by
  obtain ⟨numbered, columns, uniques⟩ := Outcome.bind_eq_ok.1 made
  rw [← Except.ok.inj uniques, numberedNames, ← numbers_of_numberedColumns columns]
  simp [Unique.numbered, numberedName, Function.comp_def]

end TableDecl

namespace Graph

variable {g : Graph} {p : DialectProfile} {schemas : List TableSchema}

/-- The constraints of all tables of a graph have the names that the tables give them. -/
theorem constraintNames_of_mapM {ts : List TableDecl}
    (made : ts.mapM (fun t => (t.schema g p).outcome) = .ok schemas) :
    schemas.map (·.name) = ts.map (·.name) ∧
      schemas.flatMap TableSchema.constraintNames = ts.flatMap TableDecl.constraintNames := by
  have related := Outcome.mapM_eq_ok.1 made
  clear made
  induction related with
  | nil => exact ⟨rfl, rfl⟩
  | @cons t s ts schemas given _ ih =>
    obtain ⟨_, _, of⟩ := TableDecl.makes_of_schema given
    have names : s.constraintNames = t.constraintNames := by
      rw [TableSchema.constraintNames, TableDecl.indexNames_eq of.indexes,
        TableDecl.uniqueNames_eq of.uniques, TableDecl.constraintNames]
    rw [List.map_cons, List.map_cons, List.flatMap_cons, List.flatMap_cons, of.name, ih.1, names,
      ih.2]
    exact ⟨rfl, rfl⟩

/-- The indexes and uniqueness constraints of all tables have names that are pairwise different,
where the tables have such names. They are the names by the tables and numbers of all indexes and
uniqueness constraints that the tables ask for. -/
theorem constraintNames_nodup (mapped : (g.schemas p).outcome = .ok schemas)
    (distinct : (schemas.map (·.name)).Nodup) :
    (schemas.flatMap TableSchema.constraintNames).Nodup ∧
      ∃ ts, g.tables.outcome = .ok ts ∧ schemas.map (·.name) = ts.map (·.name) ∧
        schemas.flatMap TableSchema.constraintNames = ts.flatMap TableDecl.constraintNames := by
  obtain ⟨ts, listed, made⟩ := schemas_eq_ok mapped
  obtain ⟨tables, constraints⟩ := constraintNames_of_mapM made
  refine ⟨?_, ts, listed, tables, constraints⟩
  rw [tables] at distinct
  rw [constraints, List.nodup_flatMap]
  refine ⟨fun t _ => t.constraintNames_nodup_of_table, ?_⟩
  refine (List.pairwise_map.1 distinct).imp fun {t t'} differ => ?_
  intro name member member'
  exact differ (TableDecl.name_eq_of_mem_constraintNames member member')

namespace Racks

/-- A table under a name with an index, by a number of columns, for each of some counts. -/
def rack (name : String) (indexes uniques : Nat) : Value × Declaration :=
  (.text name, ⟨.text name, .struct [] [⟨.text "kind", Standard.text, []⟩], [],
    some { TableRequest.plain with
      tableName := some name
      indexes := List.replicate indexes ["kind"]
      uniquenessConstraints := List.replicate uniques ["kind"] }⟩)

/-- Tables of which each has a name that goes on as that of the one before. -/
def racks : Graph := ⟨[(.text "shop", Standard.moduleOf "shop"
  [rack "shelf" 2 1, rack "shelf_1" 1 1, rack "shelf_1_idx" 1 0])]⟩

private theorem keyed_racks : racks.Keyed where
  modules := List.pairwise_singleton _ _
  decls := by simp [racks, rack, Standard.moduleOf, Entries.Distinct]
  keys := by decide

/-- The name of a declaration's table with those for its constraints. -/
def asked (x : KeptDecl) : String × List String :=
  match (TableDecl.ofDecl x.owned).outcome with
  | .ok (some t) => (t.name, t.constraintNames)
  | _ => ("", [])

private theorem asked_of_selects {x : KeptDecl} {t : TableDecl} (selects : x.Selects t) :
    asked x = (t.name, t.constraintNames) := by
  rw [asked, KeptDecl.ofDecl_eq_ok.2 selects]

private theorem asked_racks : (racks.kept.filter (·.decl.isTable)).map asked =
    [("shelf", ["shelf_1_idx", "shelf_2_idx", "shelf_1_con"]),
      ("shelf_1", ["shelf_1_1_idx", "shelf_1_1_con"]),
      ("shelf_1_idx", ["shelf_1_idx_1_idx"])] := by
  decide +kernel

private theorem exists_schemas_racks : ∃ schemas,
    (racks.schemas Dialect.postgres.profile).outcome = .ok schemas := by
  have keys : racks.HasTextKeys := by decide
  exact exists_schemas keys (by decide +kernel)

/-- The tables of the racks are those that their declarations ask for. -/
theorem tables_racks {ts : List TableDecl} (listed : racks.tables.outcome = .ok ts) :
    (ts.map fun t => (t.name, t.constraintNames)).Perm
      ((racks.kept.filter (·.decl.isTable)).map asked) := by
  have texts : racks.HasTextKeys := by decide
  have named : ∀ x ∈ racks.kept, x.decl.name.text?.isSome := by decide
  obtain rfl := Except.ok.inj ((exists_tables_of_names texts named keyed_racks).symm.trans listed)
  have each : ∀ e ∈ racks.ordered, (e.2.name, e.2.constraintNames) = asked e.1 :=
    fun e member => (asked_of_selects (mem_ordered.1 member).2).symm
  have selected := (ordered_perm texts named).map asked
  rw [List.map_map] at selected ⊢
  exact (List.Perm.of_eq (List.map_congr_left each)).trans selected

end Racks

open Racks

/-- The constraints of the racks. -/
theorem constraintNames_racks : ∃ schemas,
    (racks.schemas Dialect.postgres.profile).outcome = .ok schemas ∧
    (schemas.map (·.name)).Nodup ∧
    (schemas.flatMap TableSchema.constraintNames).Nodup ∧
    (schemas.flatMap TableSchema.constraintNames).Perm
      ["shelf_1_idx", "shelf_2_idx", "shelf_1_con", "shelf_1_1_idx", "shelf_1_1_con",
        "shelf_1_idx_1_idx"] := by
  obtain ⟨schemas, mapped⟩ := exists_schemas_racks
  have distinct : (schemas.map (·.name)).Nodup := by
    obtain ⟨ts, listed, made⟩ := schemas_eq_ok mapped
    have names := (tables_racks listed).map Prod.fst
    rw [asked_racks, List.map_map] at names
    rw [(constraintNames_of_mapM made).1]
    exact names.nodup_iff.2 (by decide)
  obtain ⟨apart, ts, listed, -, constraints⟩ := constraintNames_nodup mapped distinct
  refine ⟨schemas, mapped, distinct, apart, ?_⟩
  have names := (tables_racks listed).flatMap_right Prod.snd
  rw [asked_racks, List.flatMap_map] at names
  rw [constraints]
  exact names

end Graph

end AdlTables
