import AdlTables.Proofs.Listing
import AdlTables.Script
import AdlTables.Standard

/-! # The order of sources

Tables are read off a graph by searching it, by counting the declarations that rename a type, and by
listing its declarations in the order of their names. None of these depends on the order in which
modules, or the declarations of a module, were given. Modules in another order therefore have the
same tables or the same fault, and where two tables have one name their order is the same.
-/

namespace AdlTables

namespace Graph

section Congruence

variable {g g' : Graph} (agree : ∀ name, g.resolve name = g'.resolve name)

include agree

private theorem expand_congr (t : TypeExpr) : g.expand t = g'.expand t := by
  simp only [expand, expandAs, agree]

private theorem leafWithin_congr (whole : TypeExpr) (budget : Nat) (chain : List Value)
    (seen : List TypeExpr) (t : TypeExpr) :
    g.leafWithin whole budget chain seen t = g'.leafWithin whole budget chain seen t := by
  induction budget generalizing chain seen t with
  | zero =>
    rw [leafWithin, leafWithin]
    simp only [agree]
  | succ budget ih =>
    rw [leafWithin, leafWithin]
    simp only [agree, expand_congr agree, ih]

private theorem foreignKey_congr (t : TypeExpr) : g.foreignKey t = g'.foreignKey t := by
  simp only [foreignKey, agree]

variable (count : g.renamingCount = g'.renamingCount)

include count

private theorem columnSpec_congr (p : DialectProfile) (t : TypeExpr) :
    g.columnSpec p t = g'.columnSpec p t := by
  have leaf (t : TypeExpr) : g.leaf t = g'.leaf t := by
    rw [Graph.leaf, Graph.leaf, expansionBudget, expansionBudget, count, leafWithin_congr agree]
  simp only [columnSpec, baseColumnType, leaf, foreignKey_congr agree]

private theorem tableSchema_congr (p : DialectProfile) (t : TableDecl) :
    g.tableSchema p t = g'.tableSchema p t := by
  simp only [tableSchema, TableDecl.schema, TableDecl.fieldLine, columnSpec_congr agree count]

/-- Graphs in which the same is found, that rename as many types and have the same tables have the
same schemas. -/
theorem schemas_congr (tables : g.tables.outcome = g'.tables.outcome) (p : DialectProfile) :
    (g.schemas p).outcome = (g'.schemas p).outcome := by
  simp only [schemas, Journaled.outcome_bind, Journaled.outcome_mapM, tables,
    tableSchema_congr agree count]

end Congruence

end Graph

/-- Modules of one name with the same declarations, in any order. What a module imports, and what it
is annotated with, is not read. -/
def Module.Reordered (m m' : Module) : Prop :=
  m.name = m'.name ∧ m.decls.Perm m'.decls

/-- Lists of the same modules in any order, each with its declarations in any order. -/
def Reordered (ms ms' : List Module) : Prop :=
  ∃ between, ms.Perm between ∧ List.Forall₂ Module.Reordered between ms'

/-- Modules whose names are texts that differ, and whose declarations have keys that are texts and
differ within a module. -/
structure WellNamed (ms : List Module) : Prop where
  texts : ∀ m ∈ ms, m.name.text?.isSome ∧ ∀ e ∈ m.decls, e.1.text?.isSome
  names : (ms.map Module.name).Nodup
  keys : ∀ m ∈ ms, Entries.Distinct m.decls

namespace Reordered

variable {ms ms' : List Module}

private theorem exists_module (reordered : Reordered ms ms') {m' : Module} (member : m' ∈ ms') :
    ∃ m ∈ ms, m.Reordered m' := by
  obtain ⟨between, perm, each⟩ := reordered
  obtain ⟨m, among, modules⟩ := exists_of_forall₂ each member
  exact ⟨m, perm.mem_iff.2 among, modules⟩

private theorem wellNamed (reordered : Reordered ms ms') (named : WellNamed ms) :
    WellNamed ms' where
  texts m' member := by
    obtain ⟨m, inList, sameName, perm⟩ := reordered.exists_module member
    obtain ⟨isText, keys⟩ := named.texts m inList
    exact ⟨sameName ▸ isText, fun e inModule => keys e (perm.mem_iff.2 inModule)⟩
  names := by
    obtain ⟨between, perm, each⟩ := reordered
    have names : between.map Module.name = ms'.map Module.name := by
      rw [← List.forall₂_eq_eq_eq, List.forall₂_map_left_iff, List.forall₂_map_right_iff]
      exact each.imp fun _ _ modules => modules.1
    rw [← names, ← (perm.map Module.name).nodup_iff]
    exact named.names
  keys m' member := by
    obtain ⟨m, inList, _, perm⟩ := reordered.exists_module member
    exact (perm.pairwise_iff fun apart => by simpa [Value.same_comm] using apart).1
      (named.keys m inList)

end Reordered

namespace Graph

def ofNamed (ms : List Module) : Graph :=
  ⟨ms.map fun m => (m.name, m)⟩

section

variable {ms ms' : List Module} (named : WellNamed ms)

include named

private theorem distinct_ofNamed : Entries.Distinct (ofNamed ms).modules := by
  have apart := List.pairwise_map.1 named.names
  rw [ofNamed, Entries.Distinct, List.pairwise_map]
  refine apart.imp_of_mem fun {a b} isA isB differ => ?_
  have texts := named.texts b isB
  by_contra same
  obtain ⟨s, isText⟩ := Value.text?_isSome.1 texts.1
  rw [keyLike_same, isText, Bool.not_eq_false] at same
  exact differ ((Value.eq_text_of_same same).trans isText.symm)

private theorem ofModules_eq : ofModules ms = .ok (ofNamed ms) := by
  have keys : ms.all fun m => m.name.key?.isSome :=
    List.all_eq_true.2 fun m member => Value.key?_of_text (named.texts m member).1
  rw [ofModules, if_pos keys]
  exact congrArg (Except.ok ∘ Graph.mk) (Entries.ofList_of_distinct (distinct_ofNamed named))

private theorem keyed_ofNamed : (ofNamed ms).Keyed :=
  keyed_of_ofModules (ofModules_eq named) fun m inList => ⟨named.keys m inList,
    fun e inModule => Value.key?_of_text ((named.texts m inList).2 e inModule)⟩

private theorem hasTextKeys_ofNamed : (ofNamed ms).HasTextKeys := by
  intro entry member
  obtain ⟨m, inList, rfl⟩ := List.mem_map.1 member
  exact named.texts m inList

variable (reordered : Reordered ms ms')

include reordered

/-- Under every name stand modules that are the same but for the order of their declarations. -/
theorem find?_reordered (name : Value) :
    Option.Rel Module.Reordered (Entries.find? (ofNamed ms).modules name)
      (Entries.find? (ofNamed ms').modules name) := by
  obtain ⟨between, perm, each⟩ := reordered
  have sameEntries : List.Forall₂ (fun x y => x.1 = y.1 ∧ Module.Reordered x.2 y.2)
      (ofNamed between).modules (ofNamed ms').modules := by
    rw [ofNamed, ofNamed, List.forall₂_map_left_iff, List.forall₂_map_right_iff]
    exact each.imp fun _ _ modules => ⟨modules.1, modules⟩
  rw [Entries.find?_perm (distinct_ofNamed named) (perm.map _)]
  exact Entries.find?_rel sameEntries name

private theorem resolve_reordered (name : ScopedName) :
    (ofNamed ms).resolve name = (ofNamed ms').resolve name := by
  have found := find?_reordered named reordered name.moduleName
  rw [resolve, resolve]
  split
  · rfl
  generalize here : Entries.find? (ofNamed ms).modules name.moduleName = m?,
    Entries.find? (ofNamed ms').modules name.moduleName = m?' at found ⊢
  cases found with
  | none => rfl
  | some modules =>
    obtain ⟨sameName, perm⟩ := modules
    obtain ⟨_, _, inGraph⟩ := Entries.mem_of_find? here
    have distinct := (keyed_ofNamed named).decls _ inGraph
    simp only [Entries.find?_perm distinct perm, sameName]

omit named in
private theorem kept_reordered : (ofNamed ms).kept.Perm (ofNamed ms').kept := by
  obtain ⟨between, perm, each⟩ := reordered
  refine ((perm.map _).flatMap_right _).trans ?_
  clear perm
  induction each with
  | nil => rfl
  | @cons m m' rest rest' modules _ ih =>
    obtain ⟨sameName, decls⟩ := modules
    have owner : KeptDecl.ofEntries (m.name, m) = KeptDecl.ofEntries (m'.name, m') :=
      funext fun e => congrArg (KeptDecl.mk · e.1 e.2) sameName
    have first := (decls.map (KeptDecl.ofEntries (m.name, m))).trans
      (.of_eq (congrArg (m'.decls.map ·) owner))
    exact List.Perm.append first ih

end

/-- Modules in another order, each with its declarations in another order, give the same schemas in
every dialect and the same script, or the same fault. -/
theorem schemas_of_reordered {ms ms' : List Module} (named : WellNamed ms)
    (reordered : Reordered ms ms') :
    ∃ g g', ofModules ms = .ok g ∧ ofModules ms' = .ok g' ∧ ∀ p,
      (g.schemas p).outcome = (g'.schemas p).outcome ∧
        (do Script.render (← (g.schemas p).outcome)) =
          (do Script.render (← (g'.schemas p).outcome)) := by
  have named' := reordered.wellNamed named
  have agree := resolve_reordered named reordered
  have perm := kept_reordered reordered
  have count : (ofNamed ms).renamingCount = (ofNamed ms').renamingCount := by
    rw [renamingCount_eq, renamingCount_eq, perm.countP_eq]
  have listing : (ofNamed ms).listing = (ofNamed ms').listing := by
    have items : (ofNamed ms).listing.Perm (ofNamed ms').listing :=
      ((sortBy_perm _ _).trans perm).trans (sortBy_perm _ _).symm
    exact eq_of_perm_of_lt items
      (listing_pairwise (keyed_ofNamed named) (hasTextKeys_ofNamed named))
      (listing_pairwise (keyed_ofNamed named') (hasTextKeys_ofNamed named'))
  have tables : (ofNamed ms).tables.outcome = (ofNamed ms').tables.outcome := by
    rw [outcome_tables (keyed_ofNamed named) (hasTextKeys_ofNamed named),
      outcome_tables (keyed_ofNamed named') (hasTextKeys_ofNamed named'), listing]
  refine ⟨ofNamed ms, ofNamed ms', ofModules_eq named, ofModules_eq named', fun p => ?_⟩
  have schemas := schemas_congr agree count tables p
  exact ⟨schemas, by rw [schemas]⟩

namespace OneName

/-- A struct without fields that is annotated as the table `stock`. -/
def stock (name : String) : Value × Declaration :=
  (.text name, ⟨.text name, .struct [] [], [], some { TableRequest.plain with
    tableName := some "stock"
    withIdPrimaryKey := true }⟩)

def east : Module := Standard.moduleOf "east" [stock "Shelf"]

def west (swapped : Bool) : Module :=
  Standard.moduleOf "west" (if swapped then [stock "Box", stock "Crate"]
    else [stock "Crate", stock "Box"])

private theorem wellNamed : WellNamed [west false, east] where
  texts := by decide
  names := by simp [west, east, Standard.moduleOf]
  keys := by simp [west, east, Standard.moduleOf, stock, Entries.Distinct]

private theorem reordered : Reordered [west false, east] [east, west true] :=
  ⟨[east, west false], .swap _ _ _, .cons ⟨rfl, .refl _⟩ (.cons ⟨rfl, .swap _ _ _⟩ .nil)⟩

private theorem exists_schemas_west_east :
    ∃ schemas, ((ofNamed [west false, east]).schemas Dialect.postgres.profile).outcome =
      .ok schemas := by
  have keys : (ofNamed [west false, east]).HasTextKeys := by decide
  exact exists_schemas keys (by decide +kernel)

def tableOf (owner name : String) : TableDecl where
  origin := ⟨.text owner, (stock name).2⟩
  fields := []
  request := { TableRequest.plain with
    tableName := some "stock"
    withIdPrimaryKey := true }
  name := "stock"

private theorem listing_west_east : (ofNamed [west false, east]).listing =
    [⟨.text "east", .text "Shelf", (stock "Shelf").2⟩, ⟨.text "west", .text "Box", (stock "Box").2⟩,
      ⟨.text "west", .text "Crate", (stock "Crate").2⟩] := by
  have perm := (sortBy_perm KeptDecl.place (ofNamed [west false, east]).kept).trans
    (List.reverse_perm _).symm
  have rising := listing_pairwise (keyed_ofNamed wellNamed) (hasTextKeys_ofNamed wellNamed)
  exact eq_of_perm_of_lt perm rising (by decide +kernel)

private theorem outcome_tables_west_east : (ofNamed [west false, east]).tables.outcome =
    .ok [tableOf "east" "Shelf", tableOf "west" "Box", tableOf "west" "Crate"] := by
  rw [outcome_tables (keyed_ofNamed wellNamed) (hasTextKeys_ofNamed wellNamed), listing_west_east]
  exact congrArg Except.ok (List.mergeSort_of_pairwise (by decide +kernel))

end OneName

open OneName

/-- Three tables of one name have schemas, and they come in the order of their modules and
declarations, whatever order these are given in. -/
theorem schemas_one_name :
    (∃ g g', ofModules [west false, east] = .ok g ∧ ofModules [east, west true] = .ok g' ∧ ∀ p,
      (g.schemas p).outcome = (g'.schemas p).outcome ∧
        (do Script.render (← (g.schemas p).outcome)) =
          (do Script.render (← (g'.schemas p).outcome))) ∧
    (∃ schemas, ((ofNamed [west false, east]).schemas Dialect.postgres.profile).outcome =
      .ok schemas) ∧
    (ofNamed [west false, east]).tables.outcome =
      .ok [tableOf "east" "Shelf", tableOf "west" "Box", tableOf "west" "Crate"] :=
  ⟨schemas_of_reordered wellNamed reordered, exists_schemas_west_east, outcome_tables_west_east⟩

end Graph

end AdlTables
