import AdlTables.Proofs.Extension

/-! # Which declarations are tables

Of all declarations that a graph keeps, the structs that are annotated as tables are its tables, and
nothing else is. Each is selected once, whatever names its table and others have, and the selection
stands in the order of the tables' names; those of one name stand in the order of their modules and
then of their keys. The schemas follow in the same order.
-/

namespace AdlTables

/-- Whether a declaration is a struct that is annotated as a table. -/
def Declaration.isTable (d : Declaration) : Bool :=
  match d.body with
  | .struct _ _ => d.table.isSome
  | _ => false

namespace KeptDecl

variable {x : KeptDecl} {t : TableDecl}

/-- A table that a declaration is: it has its fields, its annotation and the name that they give. -/
structure Selects (x : KeptDecl) (t : TableDecl) : Prop where
  origin : t.origin = x.owned
  fields : ∃ params, x.decl.body = .struct params t.fields
  request : x.decl.table = some t.request
  name : x.decl.tableName = .ok t.name

theorem ofDecl_eq_ok : (TableDecl.ofDecl x.owned).outcome = .ok (some t) ↔ x.Selects t := by
  rw [TableDecl.ofDecl_eq_ok]
  constructor
  · rintro ⟨request, params, fields, name, annotated, struct, named, rfl⟩
    exact ⟨rfl, ⟨params, struct⟩, annotated, named⟩
  · rintro ⟨origin, ⟨params, struct⟩, annotated, named⟩
    obtain ⟨_, fields, request, name⟩ := t
    obtain rfl := origin
    exact ⟨request, params, fields, name, annotated, struct, named, rfl⟩

theorem Selects.isTable (selects : x.Selects t) : x.decl.isTable := by
  obtain ⟨params, struct⟩ := selects.fields
  rw [Declaration.isTable, struct]
  simp [selects.request]

end KeptDecl

/-- A declaration with a name that is a text has a name for its table. -/
theorem Declaration.exists_tableName {d : Declaration} (named : d.name.text?.isSome) :
    ∃ table, d.tableName = .ok table := by
  obtain ⟨name, isText⟩ := Value.text?_isSome.1 named
  rw [tableName, isText]
  split
  · split
    · exact ⟨_, rfl⟩
    · exact ⟨_, rfl⟩
  · exact ⟨_, rfl⟩

namespace Graph

variable {g : Graph} {x : KeptDecl}

/-- A declaration whose names are texts either is a table or is passed over, without a fault. -/
theorem exists_ofDecl (inModule : x.moduleName.text?.isSome) (named : x.decl.name.text?.isSome) :
    ∃ o, (TableDecl.ofDecl x.owned).outcome = .ok o ∧ o.isSome = x.decl.isTable := by
  obtain ⟨table, tabled⟩ := x.decl.exists_tableName named
  obtain ⟨shown, said⟩ : ∃ shown, x.owned.scopedName.say = .ok shown :=
    ScopedName.IsText.say (ScopedName.isText_iff.2 ⟨inModule, named⟩)
  rw [TableDecl.ofDecl, Declaration.isTable]
  split
  · rename_i unannotated
    have isNone : x.decl.table = none := unannotated
    refine ⟨none, rfl, ?_⟩
    cases x.decl.body <;> simp [isNone]
  · rename_i request params fields annotated struct
    have isSome : x.decl.table = some request := annotated
    have isStruct : x.decl.body = .struct params fields := struct
    refine ⟨some ⟨x.owned, fields, request, table⟩, ?_, by simp [isStruct, isSome]⟩
    have tabled' : x.owned.decl.tableName = .ok table := tabled
    simp [tabled']
  · rename_i noStruct
    refine ⟨none, by simp [said], ?_⟩
    cases body : x.decl.body with
    | struct params fields => exact (noStruct params fields body).elim
    | _ => rfl

private theorem asked?_eq_some {e : KeptDecl × TableDecl} :
    asked? x = some e ↔ e.1 = x ∧ x.Selects e.2 := by
  obtain ⟨y, t⟩ := e
  rw [asked?, ← KeptDecl.ofDecl_eq_ok]
  cases (TableDecl.ofDecl x.owned).outcome with
  | error _ => simp [Except.toOption]
  | ok o => simp [Except.toOption, and_comm, eq_comm]

theorem mem_ordered {e : KeptDecl × TableDecl} :
    e ∈ g.ordered ↔ e.1 ∈ g.kept ∧ e.1.Selects e.2 := by
  rw [ordered, (sortBy_perm _ _).mem_iff, List.mem_filterMap]
  constructor
  · rintro ⟨x, listed, asked⟩
    obtain ⟨rfl, selects⟩ := asked?_eq_some.1 asked
    exact ⟨mem_listing.1 listed, selects⟩
  · rintro ⟨kept, selects⟩
    exact ⟨e.1, mem_listing.2 kept, asked?_eq_some.2 ⟨rfl, selects⟩⟩

section

variable (texts : g.HasTextKeys) (named : ∀ x ∈ g.kept, x.decl.name.text?.isSome)

include texts named

/-- The declarations that are selected are all that are tables, each once. -/
theorem ordered_perm : (g.ordered.map (·.1)).Perm (g.kept.filter (·.decl.isTable)) := by
  have each : ∀ x ∈ g.listing, (asked? x).map (·.1) = if x.decl.isTable then some x else none := by
    intro x listed
    have kept := mem_listing.1 listed
    obtain ⟨o, asked, isTable⟩ := exists_ofDecl (texts.of_kept kept).1 (named x kept)
    rw [asked?, asked, ← isTable]
    cases o <;> rfl
  have selected : (g.listing.filterMap asked?).map (·.1) = g.listing.filter (·.decl.isTable) := by
    rw [List.map_filterMap, ← List.filterMap_eq_filter]
    exact List.filterMap_congr each
  rw [ordered]
  refine ((sortBy_perm _ _).map _).trans ?_
  rw [selected]
  exact (sortBy_perm _ _).filter _

/-- The tables of a graph whose names are texts can be listed. -/
theorem exists_tables_of_names (keyed : g.Keyed) :
    g.tables.outcome = .ok (g.ordered.map (·.2)) := by
  have each : ∀ x ∈ g.listing, ∃ o, (TableDecl.ofDecl x.owned).outcome = .ok o := by
    intro x listed
    have kept := mem_listing.1 listed
    obtain ⟨o, asked, -⟩ := exists_ofDecl (texts.of_kept kept).1 (named x kept)
    exact ⟨o, asked⟩
  obtain ⟨found, steps⟩ := Outcome.mapM_of_forall each
  have listed := outcome_tables keyed texts
  rw [steps] at listed
  rw [← tables_eq_ordered keyed texts listed]
  exact listed

/-- The schemas of a graph are those of the tables that its declarations are, in some order. -/
theorem schemas_perm (keyed : g.Keyed) {p : DialectProfile} {schemas : List TableSchema}
    (mapped : (g.schemas p).outcome = .ok schemas) : (schemas.map some).Perm
      ((g.kept.filterMap asked?).map fun e => (e.2.schema g p).outcome.toOption) := by
  obtain ⟨ts, listed, made⟩ := schemas_eq_ok mapped
  obtain rfl := Except.ok.inj ((exists_tables_of_names texts named keyed).symm.trans listed)
  rw [← Outcome.map_toOption_of_mapM made, List.map_map, ordered]
  exact ((sortBy_perm _ _).trans ((sortBy_perm _ _).filterMap _)).map _

end

private theorem mapM_schema_eq_ok {p : DialectProfile} {chosen : List (KeptDecl × TableDecl)}
    {schemas : List TableSchema} (selects : ∀ e ∈ chosen, e.1.Selects e.2)
    (made : (chosen.map (·.2)).mapM (fun t => (t.schema g p).outcome) = .ok schemas) :
    List.Forall₂ (fun e s => (e.2.schema g p).outcome = .ok s ∧ s.name = e.2.name ∧
      s.moduleName = e.1.moduleName ∧ s.declName = e.1.decl.name) chosen schemas := by
  have related := List.forall₂_map_left_iff.1 (Outcome.mapM_eq_ok.1 made)
  refine forall₂_imp_of_mem related fun e member s given => ?_
  obtain ⟨_, _, of⟩ := TableDecl.makes_of_schema given
  have origin := (selects e member).origin
  exact ⟨given, of.name, by rw [of.moduleName, origin]; rfl, by rw [of.declName, origin]; rfl⟩

/-- The tables of a graph whose names are texts are selected without a fault. There is one for each
place where a struct is kept that is annotated as a table, and none for anything else; it has the
name that the declaration gives it. The tables stand in the order of their names, and those of one
name in the order of their modules' names and then of their keys. The schemas, where they can be
made, are those of the tables, one for each in the same order. -/
theorem tables_selected (keyed : g.Keyed) (texts : g.HasTextKeys)
    (named : ∀ x ∈ g.kept, x.decl.name.text?.isSome) :
    ∃ chosen : List (KeptDecl × TableDecl),
      g.tables.outcome = .ok (chosen.map (·.2)) ∧
      (chosen.map (·.1)).Perm (g.kept.filter (·.decl.isTable)) ∧
      (chosen.map (·.1.place)).Nodup ∧
      (∀ e ∈ chosen, e.1.Selects e.2) ∧
      chosen.Pairwise (fun e e' =>
        toLex (e.2.name, e.1.place) < toLex (e'.2.name, e'.1.place)) ∧
      ∀ p schemas, (g.schemas p).outcome = .ok schemas →
        List.Forall₂ (fun e s => (e.2.schema g p).outcome = .ok s ∧ s.name = e.2.name ∧
          s.moduleName = e.1.moduleName ∧ s.declName = e.1.decl.name) chosen schemas := by
  have selects : ∀ e ∈ g.ordered, e.1.Selects e.2 := fun e member => (mem_ordered.1 member).2
  have listed := exists_tables_of_names texts named keyed
  have perm := ordered_perm texts named
  refine ⟨g.ordered, listed, perm, ?_, selects, ordered_pairwise keyed texts, ?_⟩
  · have places : (g.listing.map (·.place)).Nodup :=
      List.pairwise_map.2 ((listing_pairwise keyed texts).imp fun before => before.ne)
    have inListing : (g.ordered.map (·.1)).Perm (g.listing.filter (·.decl.isTable)) :=
      perm.trans ((sortBy_perm _ _).symm.filter _)
    have distinct : ((g.listing.filter (·.decl.isTable)).map (·.place)).Nodup :=
      places.sublist (List.filter_sublist.map _)
    rw [← (inListing.map _).nodup_iff, List.map_map] at distinct
    exact distinct
  · intro p schemas mapped
    obtain ⟨ts, listed', made⟩ := schemas_eq_ok mapped
    obtain rfl := Except.ok.inj (listed.symm.trans listed')
    exact mapM_schema_eq_ok selects made

namespace Stalls

/-- A declaration that is annotated as a table, under a name of its own or under a given one. -/
def stall (name : String) (body : Body) (table : Option String) : Value × Declaration :=
  (.text name, ⟨.text name, body, [], some { TableRequest.plain with tableName := table }⟩)

/-- Three structs that are one table, a struct that is another, a union that is annotated though it
is none, and a struct that is not annotated. -/
def market : Graph := ⟨[
  (.text "west", Standard.moduleOf "west" [stall "Crate" (.struct [] []) (some "stock"),
    stall "Bin" (.union [] []) (some "bin"), stall "Box" (.struct [] []) (some "stock")]),
  (.text "east", Standard.moduleOf "east" [stall "Shelf" (.struct [] []) (some "stock"),
    Standard.declare "Lid" (.struct [] []), stall "Apple" (.struct [] []) none])]⟩

private theorem keyed_market : market.Keyed where
  modules := by simp [market, Entries.Distinct]
  decls := by simp [market, stall, Standard.moduleOf, Standard.declare, Entries.Distinct]
  keys := by decide

/-- The name of a declaration's table, with the place of the declaration. -/
def shown (x : KeptDecl) : String × String × String :=
  (x.decl.tableName.toOption.getD "", x.moduleName.keyText, x.key.keyText)

private theorem shown_market : (market.kept.filter (·.decl.isTable)).map shown =
    [("stock", "west", "Crate"), ("stock", "west", "Box"), ("stock", "east", "Shelf"),
      ("apple", "east", "Apple")] := by
  decide +kernel

end Stalls

open Stalls

/-- The tables of a market in their order. -/
theorem tables_selected_market : ∃ chosen : List (KeptDecl × TableDecl),
    market.tables.outcome = .ok (chosen.map (·.2)) ∧ (∀ e ∈ chosen, e.1.Selects e.2) ∧
    chosen.map (fun e => (e.2.name, e.1.moduleName.keyText, e.1.key.keyText)) =
      [("apple", "east", "Apple"), ("stock", "east", "Shelf"), ("stock", "west", "Box"),
        ("stock", "west", "Crate")] := by
  obtain ⟨chosen, listed, perm, -, selects, rising, -⟩ :=
    tables_selected keyed_market (by decide) (by decide)
  refine ⟨chosen, listed, selects, ?_⟩
  have each : ∀ e ∈ chosen,
      (e.2.name, e.1.moduleName.keyText, e.1.key.keyText) = shown e.1 := by
    intro e member
    simp [shown, (selects e member).name, Except.toOption]
  have sorted : (chosen.map fun e => shown e.1).Pairwise fun a b =>
      toLex (a.1, toLex a.2) < toLex (b.1, toLex b.2) := by
    rw [List.pairwise_map]
    refine rising.imp_of_mem fun {e e'} member member' before => ?_
    rw [← each e member, ← each e' member']
    exact before
  have items := perm.map shown
  rw [shown_market, List.map_map] at items
  rw [List.map_congr_left each]
  refine eq_of_perm_of_lt (items.trans ?_) sorted (by decide +kernel)
  decide

end Graph

end AdlTables
