import AdlTables.Proofs.Budget
import AdlTables.Proofs.Column
import AdlTables.Proofs.Listing
import AdlTables.Standard

/-! # Graphs that grow

A graph that gains modules, or declarations in its modules, keeps what was made from it. A column is
made of the declarations that its type leads to, and these stay; the budget of an expansion counts
all declarations of the graph, and since it only grows, what was expanded within it still is. The
tables keep their order, since each keeps its place in the list of declarations.
-/

namespace AdlTables

namespace Outcome

variable {ε α α' β β' : Type}

/-- Where the first outcome is a result, the second is a related one. -/
def Keeps (r : α → α' → Prop) (x : Except ε α) (x' : Except ε α') : Prop :=
  ∀ a, x = .ok a → ∃ a', x' = .ok a' ∧ r a a'

namespace Keeps

variable {r : α → α' → Prop} {s : β → β' → Prop}

theorem refl (x : Except ε α) : Keeps Eq x x :=
  fun a made => ⟨a, made, rfl⟩

private theorem eq_ok {x x' : Except ε α} {a : α} (keeps : Keeps Eq x x') (made : x = .ok a) :
    x' = .ok a := by
  obtain ⟨_, made', rfl⟩ := keeps a made
  exact made'

theorem bind {x : Except ε α} {x' : Except ε α'} {f : α → Except ε β} {f' : α' → Except ε β'}
    (first : Keeps r x x') (rest : ∀ a a', r a a' → Keeps s (f a) (f' a')) :
    Keeps s (x >>= f) (x' >>= f') := by
  intro b made
  obtain ⟨a, here, there⟩ := bind_eq_ok.1 made
  obtain ⟨a', here', related⟩ := first a here
  rw [here', ok_bind]
  exact rest a a' related b there

/-- A step that stays the same may be followed by others that keep their results. -/
theorem bind_same (x : Except ε α) {f : α → Except ε β} {f' : α → Except ε β'}
    (rest : ∀ a, Keeps s (f a) (f' a)) : Keeps s (x >>= f) (x >>= f') :=
  (refl x).bind fun a _ same => same ▸ rest a

theorem mapM {f f' : α → Except ε β} {xs : List α} (each : ∀ x ∈ xs, Keeps Eq (f x) (f' x)) :
    Keeps Eq (xs.mapM f) (xs.mapM f') := by
  induction xs with
  | nil => exact refl _
  | cons x xs ih =>
    rw [List.mapM_cons, List.mapM_cons]
    refine (each x List.mem_cons_self).bind ?_
    rintro y _ rfl
    refine (ih fun x' member => each x' (List.mem_cons_of_mem _ member)).bind ?_
    rintro ys _ rfl
    exact refl _

end Keeps

/-- Steps that keep their results give a part of what they give for more items. -/
theorem sublist_of_mapM {f f' : α → Except ε β} {xs xs' : List α} {ys ys' : List β}
    (part : xs.Sublist xs') (each : ∀ x, Keeps Eq (f x) (f' x)) (steps : xs.mapM f = .ok ys)
    (steps' : xs'.mapM f' = .ok ys') : ys.Sublist ys' := by
  rw [mapM_eq_ok] at steps steps'
  induction part generalizing ys ys' with
  | slnil =>
    cases steps
    exact List.nil_sublist _
  | cons x _ ih =>
    cases steps' with
    | cons _ rest' => exact (ih steps rest').cons _
  | cons_cons x _ ih =>
    cases steps with
    | cons made rest => cases steps' with
      | cons made' rest' =>
        obtain rfl := Except.ok.inj (((each x).eq_ok made).symm.trans made')
        exact (ih rest rest').cons_cons _

end Outcome

open Outcome (Keeps)

namespace Graph

/-- Every declaration of a graph is in another one unchanged, in the module of the same name and
under the same key. -/
def Extends (g g' : Graph) : Prop :=
  ∀ x ∈ g.kept, ∃ x' ∈ g'.kept, x.Same x' ∧ x.decl = x'.decl

variable {g g' : Graph}

private theorem extends_of_subset (texts : g.HasTextKeys) (among : g.kept ⊆ g'.kept) :
    g.Extends g' :=
  fun x member => ⟨x, among member, texts.same_self member, rfl⟩

section

variable (grown : g.Extends g') (keyed' : g'.Keyed)

include grown keyed'

private theorem keeps_resolve (name : ScopedName) :
    Keeps (fun d d' => d.decl = d'.decl) (g.resolve name) (g'.resolve name) := by
  intro d found
  obtain ⟨x, member, likeModule, likeKey, here⟩ := kept_of_resolve found
  obtain ⟨x', member', ⟨sameModule, sameKey⟩, there⟩ := grown x member
  obtain ⟨d', found', here'⟩ := resolve_of_kept keyed' member'
    (Value.same_trans (Value.same_symm sameModule) likeModule)
    (Value.same_trans (Value.same_symm sameKey) likeKey)
  exact ⟨d', found', here.symm.trans (there.trans here'.symm)⟩

omit keyed' in
/-- A graph that grows renames at least as many types. -/
theorem renamingCount_le (keyed : g.Keyed) : g.renamingCount ≤ g'.renamingCount := by
  -- the places of the declarations, as keys, differ in the first graph and come again in the second
  let place (x : KeptDecl) : Option Key × Option Key := (x.moduleName.key?, x.key.key?)
  let renames (x : KeptDecl) : Bool := x.decl.body.renamed?.isSome
  have nodup : ((g.kept.filter renames).map place).Nodup := by
    rw [List.Nodup, List.pairwise_map]
    refine ((kept_pairwise keyed).filter renames).imp_of_mem fun {x y} isX _ apart same => ?_
    obtain ⟨entry, inGraph, e, inModule, rfl⟩ := mem_kept.1 (List.mem_filter.1 isX).1
    obtain ⟨isKey, areKeys⟩ := keyed.keys entry inGraph
    obtain ⟨k, here⟩ := Option.isSome_iff_exists.1 isKey
    obtain ⟨k', there⟩ := Option.isSome_iff_exists.1 (areKeys e inModule)
    refine apart ⟨Value.same_iff.2 ⟨k, here, ?_⟩, Value.same_iff.2 ⟨k', there, ?_⟩⟩
    · exact (congrArg Prod.fst same).symm.trans here
    · exact (congrArg Prod.snd same).symm.trans there
  have among : (g.kept.filter renames).map place ⊆ (g'.kept.filter renames).map place := by
    intro k member
    obtain ⟨x, isX, rfl⟩ := List.mem_map.1 member
    obtain ⟨inGraph, renamed⟩ := List.mem_filter.1 isX
    obtain ⟨x', inGraph', ⟨sameModule, sameKey⟩, same⟩ := grown x inGraph
    refine List.mem_map.2 ⟨x', List.mem_filter.2 ⟨inGraph', ?_⟩, ?_⟩
    · simpa only [renames, same] using renamed
    · exact congrArg₂ Prod.mk (Value.Alike.key?_eq (.inr sameModule)).symm
        (Value.Alike.key?_eq (.inr sameKey)).symm
  have fewer := (List.subperm_of_subset nodup among).length_le
  simpa only [renamingCount_eq, List.countP_eq_length_filter, List.length_map] using fewer

private theorem keeps_stage (t : TypeExpr) : Keeps Eq (g.stage t) (g'.stage t) := by
  rw [stage, stage]
  refine .bind_same _ fun shape => ?_
  cases shape with
  | primitive _ _ | optional _ => exact .refl _
  | declared name _ =>
    dsimp only
    split
    · exact .refl _
    · refine (keeps_resolve grown keyed' name).bind fun d d' same => ?_
      rw [same]
      exact .refl _

private theorem keeps_expand (t : TypeExpr) : Keeps Eq (g.expand t) (g'.expand t) := by
  have one (kind : Renaming) : Keeps Eq (g.expandAs kind t) (g'.expandAs kind t) := by
    rw [expandAs, expandAs]
    split
    · refine (keeps_resolve grown keyed' _).bind fun d d' same => ?_
      rw [same]
      exact .refl _
    · exact .refl _
  rw [expand, expand]
  refine (one .typeAlias).bind ?_
  rintro expanded _ rfl
  cases expanded with
  | some _ => exact .refl _
  | none => exact one .newtype

/-- More steps and more declarations lead to the same leaf. -/
theorem keeps_leafWithin {budget budget' : Nat} (more : budget ≤ budget') (whole : TypeExpr)
    (chain : List Value) (seen : List TypeExpr) (t : TypeExpr) :
    Keeps Eq (g.leafWithin whole budget chain seen t).outcome
      (g'.leafWithin whole budget' chain seen t).outcome := by
  -- a round that ends in a refusal keeps nothing, so only those that go on are compared
  have refused {x : Except Fault Leaf} (chain : List Value) :
      Keeps Eq (refuseExpansion whole chain) x := fun _ made => (refuseExpansion_ne_ok made).elim
  induction budget generalizing budget' chain seen t with
  | zero =>
    rw [outcome_leafWithin, outcome_leafWithin]
    refine (keeps_stage grown keyed' t).bind ?_
    rintro stage _ rfl
    cases stage with
    | leaf _ => exact .refl _
    | renamed =>
      refine .bind_same _ fun text => ?_
      split
      · exact .refl _
      split
      · exact refused _
      · exact refused _
  | succ budget ih =>
    obtain ⟨budget', rfl⟩ := Nat.exists_eq_add_one_of_ne_zero (by omega : budget' ≠ 0)
    rw [outcome_leafWithin, outcome_leafWithin]
    refine (keeps_stage grown keyed' t).bind ?_
    rintro stage _ rfl
    cases stage with
    | leaf _ => exact .refl _
    | renamed =>
      refine .bind_same _ fun text => ?_
      split
      · exact .refl _
      split
      · exact refused _
      refine (keeps_expand grown keyed' t).bind ?_
      rintro next _ rfl
      cases next with
      | none => exact .refl _
      | some next =>
        exact .bind_same _ fun _ => .bind_same _ fun _ => .bind_same _ fun _ =>
          ih (Nat.le_of_succ_le_succ more) _ _ _

private theorem keeps_foreignKey (t : TypeExpr) :
    Keeps Eq (g.foreignKey t).outcome (g'.foreignKey t).outcome := by
  rw [outcome_foreignKey, outcome_foreignKey]
  refine .bind_same _ fun target => ?_
  cases target with
  | none => exact .refl _
  | some target =>
    refine (keeps_resolve grown keyed' target).bind fun d d' same => ?_
    rw [same]
    exact .refl _

variable (keyed : g.Keyed)

include keyed

private theorem keeps_leaf (t : TypeExpr) : Keeps Eq (g.leaf t).outcome (g'.leaf t).outcome := by
  have more : g.expansionBudget t ≤ g'.expansionBudget t :=
    Nat.mul_le_mul_right _ (renamingCount_le grown keyed)
  exact keeps_leafWithin grown keyed' more t [] [] t

/-- A column stays as it is. -/
theorem keeps_columnSpec (p : DialectProfile) (t : TypeExpr) :
    Keeps Eq (g.columnSpec p t).outcome (g'.columnSpec p t).outcome := by
  rw [outcome_columnSpec, outcome_columnSpec]
  refine .bind_same _ fun (u, nullable) => ?_
  refine (keeps_leaf grown keyed' keyed u).bind ?_
  rintro leaf _ rfl
  refine (keeps_foreignKey grown keyed' u).bind ?_
  rintro key _ rfl
  exact .refl _

/-- A table's schema stays as it is. -/
theorem keeps_schema (p : DialectProfile) (t : TableDecl) :
    Keeps Eq (t.schema g p).outcome (t.schema g' p).outcome := by
  have line (isId : Bool) (field : Field) (column : String) :
      Keeps Eq (TableDecl.fieldLine g p t.name isId field column).outcome
        (TableDecl.fieldLine g' p t.name isId field column).outcome := by
    simp only [TableDecl.fieldLine, Journaled.outcome_bind]
    refine (keeps_columnSpec grown keyed' keyed p field.type).bind ?_
    rintro spec _ rfl
    exact .refl _
  simp only [TableDecl.schema, Journaled.outcome_bind, Journaled.outcome_monadLift]
  refine .bind_same _ fun columns => ?_
  -- the note on a declared id changes nothing of what is made
  split
  all_goals
    simp only [Journaled.outcome_bind, Journaled.outcome_note, Journaled.outcome_mapM,
      Outcome.ok_bind]
    refine (Keeps.mapM fun _ _ => line _ _ _).bind ?_
    rintro lines _ rfl
    exact .refl _

end

/-- The table that a declaration asks for, beside the declaration. -/
def asked? (x : KeptDecl) : Option (KeptDecl × TableDecl) :=
  (TableDecl.ofDecl x.owned).outcome.toOption.join.map (x, ·)

/-- The tables of a graph, each beside its declaration, in their order. -/
def ordered (g : Graph) : List (KeptDecl × TableDecl) :=
  sortBy (·.2.name) (g.listing.filterMap asked?)

section

variable (keyed : g.Keyed) (texts : g.HasTextKeys)

include keyed texts

theorem tables_eq_ordered {ts : List TableDecl} (listed : g.tables.outcome = .ok ts) :
    ts = g.ordered.map (·.2) := by
  rw [outcome_tables keyed texts, Outcome.map_eq_ok] at listed
  obtain ⟨found, steps, rfl⟩ := listed
  have items : found.filterMap id = (g.listing.filterMap asked?).map (·.2) := by
    rw [Outcome.filterMap_of_mapM steps, List.map_filterMap]
    simp [asked?, Function.comp_def]
  rw [items, ordered, map_sortBy (fun t : TableDecl => t.name)]

/-- The tables stand in the order of their names, and those of one name in the order of their
declarations' places. -/
theorem ordered_pairwise : g.ordered.Pairwise fun x y =>
    toLex (x.2.name, x.1.place) < toLex (y.2.name, y.1.place) := by
  refine sortBy_pairwise_of_places (List.pairwise_filterMap.2 ?_)
  refine (listing_pairwise keyed texts).imp fun {x y} before a isA b isB => ?_
  obtain ⟨_, _, rfl⟩ := Option.map_eq_some_iff.1 isA
  obtain ⟨_, _, rfl⟩ := Option.map_eq_some_iff.1 isB
  exact before

end

/-- The tables of a graph that grows are among those of the larger one, in the same order. -/
theorem ordered_sublist (keyed : g.Keyed) (keyed' : g'.Keyed) (texts : g.HasTextKeys)
    (texts' : g'.HasTextKeys) (grown : g.Extends g') : g.ordered.Sublist g'.ordered := by
  refine sublist_of_subset_of_lt ?_ (ordered_pairwise keyed texts) (ordered_pairwise keyed' texts')
  intro entry member
  obtain ⟨x, listed, asked⟩ := List.mem_filterMap.1 ((sortBy_perm _ _).mem_iff.1 member)
  have inGraph := mem_listing.1 listed
  obtain ⟨x', inGraph', ⟨sameModule, sameKey⟩, same⟩ := grown x inGraph
  -- where names are texts, a declaration under the same names is the same entry
  have unchanged : x = x' := by
    obtain ⟨⟨m, inModule⟩, ⟨k, isKey⟩⟩ :=
      (texts'.of_kept inGraph').imp Value.text?_isSome.1 Value.text?_isSome.1
    obtain ⟨moduleName, key, decl⟩ := x
    obtain ⟨moduleName', key', decl'⟩ := x'
    obtain rfl : moduleName' = .text m := inModule
    obtain rfl : key' = .text k := isKey
    obtain rfl : moduleName = .text m := Value.eq_text_of_same sameModule
    obtain rfl : key = .text k := Value.eq_text_of_same sameKey
    exact congrArg (KeptDecl.mk _ _) same
  refine (sortBy_perm _ _).mem_iff.2 (List.mem_filterMap.2 ⟨x', mem_listing.2 inGraph', ?_⟩)
  exact unchanged ▸ asked

/-- A column that is made over a graph is made over every graph that has its declarations. Where
both graphs have schemas, those of the first are among those of the second, unchanged and in the
same order. -/
theorem kept_of_extends (keyed : g.Keyed) (keyed' : g'.Keyed) (grown : g.Extends g') :
    (∀ p t spec, (g.columnSpec p t).outcome = .ok spec → (g'.columnSpec p t).outcome = .ok spec) ∧
    (g.HasTextKeys → g'.HasTextKeys → ∀ p schemas schemas', (g.schemas p).outcome = .ok schemas →
      (g'.schemas p).outcome = .ok schemas' → schemas.Sublist schemas') := by
  refine ⟨fun p t _ => (keeps_columnSpec grown keyed' keyed p t).eq_ok, ?_⟩
  intro texts texts' p schemas schemas' mapped mapped'
  obtain ⟨ts, listed, made⟩ := schemas_eq_ok mapped
  obtain ⟨ts', listed', made'⟩ := schemas_eq_ok mapped'
  have part : ts.Sublist ts' := by
    rw [tables_eq_ordered keyed texts listed, tables_eq_ordered keyed' texts' listed']
    exact (ordered_sublist keyed keyed' texts texts' grown).map _
  exact Outcome.sublist_of_mapM part (fun t => keeps_schema grown keyed' keyed p t) made made'

namespace ModuleMore

/-- The alias for the names of people. -/
def name : TypeExpr := .reference (.ofTexts "m" "Name") []

/-- The declarations of people, who have a table, and of their names. -/
def people : List (Value × Declaration) := [
  Standard.declare "Name" (.typeAlias [] Standard.text),
  (.text "Person", ⟨.text "Person", .struct [] [Standard.field "name" name], [],
    some { TableRequest.plain with withIdPrimaryKey := true }⟩)]

def few : Graph := ⟨[(.text "m", Standard.moduleOf "m" people)]⟩

/-- The graph with a declaration more in its module, and a module with a table of the same name. -/
def many : Graph := ⟨[(.text "a", Standard.moduleOf "a" people), (.text "m", Standard.moduleOf "m"
  (Standard.declare "Alias" (.newtype [] name) :: people))]⟩

private theorem keyed_few : few.Keyed where
  modules := List.pairwise_singleton _ _
  decls := by simp [few, people, Standard.moduleOf, Standard.declare, Entries.Distinct]
  keys := by decide

private theorem keyed_many : many.Keyed where
  modules := by simp [many, Entries.Distinct]
  decls := by simp [many, people, Standard.moduleOf, Standard.declare, Entries.Distinct]
  keys := by decide

private theorem extends_few_many : few.Extends many := by
  refine extends_of_subset (by decide) fun x member => ?_
  simp only [few, many, kept, Standard.moduleOf, List.flatMap_cons, List.flatMap_nil, List.map_cons,
    List.append_nil, List.mem_append, List.mem_cons] at member ⊢
  exact .inr (.inr member)

end ModuleMore

open ModuleMore

/-- The column of a name and the table of people stay when the graph grows. -/
theorem kept_in_many : ∃ spec schemas schemas',
    spec = ⟨"nvarchar(max) not null", false, none⟩ ∧
    (few.columnSpec Dialect.mssql.profile name).outcome = .ok spec ∧
    (many.columnSpec Dialect.mssql.profile name).outcome = .ok spec ∧
    (few.schemas Dialect.mssql.profile).outcome = .ok schemas ∧
    (many.schemas Dialect.mssql.profile).outcome = .ok schemas' ∧ schemas.Sublist schemas' := by
  obtain ⟨columns, tables⟩ := kept_of_extends keyed_few keyed_many extends_few_many
  have texts : few.HasTextKeys := by decide
  have texts' : many.HasTextKeys := by decide
  have column : (few.columnSpec Dialect.mssql.profile name).outcome =
      .ok ⟨"nvarchar(max) not null", false, none⟩ :=
    Outcome.toOption_eq_some.1 (by decide +kernel)
  obtain ⟨schemas, mapped⟩ := exists_schemas (p := Dialect.mssql.profile) texts (by decide +kernel)
  obtain ⟨schemas', mapped'⟩ :=
    exists_schemas (p := Dialect.mssql.profile) texts' (by decide +kernel)
  exact ⟨_, schemas, schemas', rfl, column, columns _ _ _ column, mapped, mapped',
    tables texts texts' _ _ _ mapped mapped'⟩

end Graph

end AdlTables
