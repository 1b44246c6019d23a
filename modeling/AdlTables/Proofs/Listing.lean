import AdlTables.Proofs.Entries
import AdlTables.Proofs.Tables
import Mathlib.Data.List.Perm.Basic
import Mathlib.Data.List.Sort
import Mathlib.Data.Prod.Lex
import Mathlib.Data.String.Basic

/-! # Declarations in order

The tables of a graph come from one list of all its declarations, sorted by the names of their
modules and then by their own. Where names are texts and no two declarations share one, no two stand
level in this order, so the list is settled by what the graph holds, in whatever order it holds it.
Sorting tables by name is stable: those of one name keep the order of the list.
-/

namespace AdlTables

section Sorting

variable {α κ ρ : Type} [LinearOrder κ] [LinearOrder ρ]

def sortBy (key : α → κ) (xs : List α) : List α :=
  xs.mergeSort fun a b => key a ≤ key b

variable (key : α → κ) (xs : List α)

private theorem key_trans (a b c : α) (first : decide (key a ≤ key b))
    (second : decide (key b ≤ key c)) : decide (key a ≤ key c) := by
  rw [decide_eq_true_eq] at first second ⊢
  exact first.trans second

private theorem key_total (a b : α) : (decide (key a ≤ key b) || decide (key b ≤ key a)) := by
  simpa using le_total (key a) (key b)

theorem sortBy_perm : (sortBy key xs).Perm xs :=
  List.mergeSort_perm _ _

private theorem sortBy_pairwise : (sortBy key xs).Pairwise fun a b => key a ≤ key b :=
  (List.pairwise_mergeSort (key_trans key) (key_total key) xs).imp of_decide_eq_true

/-- Sorting keeps the items of one key in their order. -/
theorem filter_sortBy (c : κ) :
    (sortBy key xs).filter (key · = c) = xs.filter (key · = c) := by
  have level : (xs.filter (key · = c)).Pairwise fun a b => decide (key a ≤ key b) := by
    refine List.pairwise_of_forall_mem_list fun a isA b isB => ?_
    have here : key a = c := of_decide_eq_true (List.mem_filter.1 isA).2
    have there : key b = c := of_decide_eq_true (List.mem_filter.1 isB).2
    rw [here, there]
    exact decide_eq_true le_rfl
  have kept : (xs.filter (key · = c)).Sublist (sortBy key xs) :=
    List.sublist_mergeSort (key_trans key) (key_total key) level List.filter_sublist
  have within : (xs.filter (key · = c)).Sublist ((sortBy key xs).filter (key · = c)) := by
    simpa using kept.filter (key · = c)
  exact (within.eq_of_length ((sortBy_perm key xs).filter _).length_eq.symm).symm

/-- Sorting and then reading off a part is sorting the parts. -/
theorem map_sortBy {β : Type} (f : β → α) (ys : List β) :
    (sortBy (fun y => key (f y)) ys).map f = sortBy key (ys.map f) :=
  List.map_mergeSort fun _ _ _ _ => rfl

variable {key xs}

/-- Items that stand in the order of their places are sorted by key and then by place. -/
theorem sortBy_pairwise_of_places {place : α → ρ}
    (ordered : xs.Pairwise fun a b => place a < place b) :
    (sortBy key xs).Pairwise fun a b => toLex (key a, place a) < toLex (key b, place b) := by
  rw [List.pairwise_iff_forall_sublist]
  intro a b pair
  have sorted := List.pairwise_iff_forall_sublist.1 (sortBy_pairwise key xs) pair
  rw [Prod.Lex.toLex_lt_toLex]
  refine sorted.lt_or_eq.imp_right fun level => ⟨level, ?_⟩
  -- two items of one key are a pair among those of this key, which sorting does not touch
  have same : key a = key b := level
  have both : [a, b].filter (key · = key b) = [a, b] := by simp [same]
  have here : [a, b].Sublist (xs.filter (key · = key b)) := by
    rw [← filter_sortBy, ← both]
    exact pair.filter _
  exact List.pairwise_iff_forall_sublist.1 ordered (here.trans List.filter_sublist)

/-- Keys that differ sort a list strictly. -/
theorem sortBy_pairwise_lt (apart : xs.Pairwise fun a b => key a ≠ key b) :
    (sortBy key xs).Pairwise fun a b => key a < key b := by
  have apart' := ((sortBy_perm key xs).pairwise_iff fun differ => differ.symm).2 apart
  exact (sortBy_pairwise key xs).imp₂ (fun _ _ => lt_of_le_of_ne) apart'

private theorem antisymm_of_lt (key : α → κ) : Std.Antisymm fun a b => key a < key b :=
  ⟨fun _ _ first second => (first.asymm second).elim⟩

/-- A list whose keys rise is settled by its items. -/
theorem eq_of_perm_of_lt {ys : List α} (perm : xs.Perm ys)
    (rising : xs.Pairwise fun a b => key a < key b)
    (rising' : ys.Pairwise fun a b => key a < key b) : xs = ys :=
  have := antisymm_of_lt key
  perm.eq_of_pairwise' rising rising'

/-- A list whose keys rise is part of every other one that has its items, in the same order. -/
theorem sublist_of_subset_of_lt {ys : List α} (among : xs ⊆ ys)
    (rising : xs.Pairwise fun a b => key a < key b)
    (rising' : ys.Pairwise fun a b => key a < key b) : xs.Sublist ys :=
  have := antisymm_of_lt key
  have nodup : xs.Nodup := rising.imp fun below same => below.ne (congrArg key same)
  List.sublist_of_subperm_of_pairwise (List.subperm_of_subset nodup among) rising rising'

end Sorting

namespace Value

/-- The text of a value, empty if it is none. -/
def keyText (v : Value) : String :=
  v.text?.getD ""

private theorem eq_of_keyText {a b : Value} (isText : a.text?.isSome) (isText' : b.text?.isSome)
    (same : a.keyText = b.keyText) : a = b := by
  obtain ⟨s, rfl⟩ := text?_isSome.1 isText
  obtain ⟨s', rfl⟩ := text?_isSome.1 isText'
  exact congrArg text same

theorem key?_of_text {a : Value} (isText : a.text?.isSome) : a.key?.isSome := by
  obtain ⟨s, rfl⟩ := text?_isSome.1 isText
  rfl

/-- Keys that are texts are sorted as texts. -/
theorem sortByKey_eq_sortBy {α : Type} {pairs : List (Value × α)}
    (texts : ∀ x ∈ pairs, x.1.text?.isSome) :
    sortByKey pairs = .ok (sortBy (fun x => x.1.keyText) pairs) := by
  unfold sortByKey
  split
  · rw [sortBy, List.mergeSort_nil]
  · rw [sortBy, List.mergeSort_singleton]
  · have all : (pairs.map (·.1)).all (·.text?.isSome) := by simpa using texts
    have level : ∀ a ∈ pairs, ∀ b ∈ pairs,
        textLe a.1 b.1 = decide (a.1.keyText ≤ b.1.keyText) := by
      intro a isA b isB
      obtain ⟨s, here⟩ := text?_isSome.1 (texts a isA)
      obtain ⟨s', there⟩ := text?_isSome.1 (texts b isB)
      rw [here, there]
      rfl
    have sorted := List.map_mergeSort (r := fun a b : Value × α => textLe a.1 b.1)
      (s := fun a b : Value × α => decide (a.1.keyText ≤ b.1.keyText)) (f := id) level
    rw [List.map_id, List.map_id] at sorted
    simp [order?, all, sortBy, sorted]

/-- Distinct keys that are texts differ as texts. -/
theorem keyText_ne {α : Type} {pairs : List (Value × α)} (distinct : Entries.Distinct pairs)
    (texts : ∀ x ∈ pairs, x.1.text?.isSome) :
    pairs.Pairwise fun a b => a.1.keyText ≠ b.1.keyText := by
  refine distinct.imp_of_mem fun {a b} isA isB apart same => ?_
  have equal := eq_of_keyText (texts a isA) (texts b isB) same
  obtain ⟨s, isText⟩ := text?_isSome.1 (texts b isB)
  simp [equal, isText] at apart

end Value

/-- A declaration with the name of its module and the key under which it is kept there. -/
structure KeptDecl where
  moduleName : Value
  key : Value
  decl : Declaration

namespace KeptDecl

def ofEntries (entry : Value × Module) (e : Value × Declaration) : KeptDecl :=
  ⟨entry.1, e.1, e.2⟩

def owned (x : KeptDecl) : ScopedDecl :=
  ⟨x.moduleName, x.decl⟩

/-- Declarations that are kept in one place: in modules of one name and under one key. -/
def Same (x y : KeptDecl) : Prop :=
  x.moduleName.same y.moduleName ∧ x.key.same y.key

/-- The place of a declaration among all: by the name of its module and then by its key. -/
def place (x : KeptDecl) : String ×ₗ String :=
  toLex (x.moduleName.keyText, x.key.keyText)

end KeptDecl

namespace Graph

/-- A graph keeps one module under each name and one declaration under each key of a module. -/
structure Keyed (g : Graph) : Prop where
  modules : Entries.Distinct g.modules
  decls : ∀ entry ∈ g.modules, Entries.Distinct entry.2.decls
  keys : ∀ entry ∈ g.modules, entry.1.key?.isSome ∧ ∀ e ∈ entry.2.decls, e.1.key?.isSome

/-- In the graph that modules make each of them stands under its own name. -/
theorem mem_of_ofModules {ms : List Module} {g : Graph} (made : ofModules ms = .ok g)
    {entry : Value × Module} (member : entry ∈ g.modules) :
    entry.2 ∈ ms ∧ entry.2.name.same entry.1 := by
  rw [ofModules] at made
  split at made
  · rename_i names
    cases made
    obtain ⟨distinct, known⟩ := Entries.ofList_spec (ms.map fun m => (m.name, m))
    have isKey : entry.1.key?.isSome := by
      obtain ⟨pair, among, named⟩ := List.mem_map.1 (known entry.1 (List.mem_map_of_mem member))
      obtain ⟨m, inList, rfl⟩ := List.mem_map.1 among
      exact named ▸ List.all_eq_true.1 names m inList
    have found := Entries.find?_of_mem distinct member
      (Value.same_self (Option.isSome_iff_ne_none.1 isKey))
    rw [Entries.find?_ofList, Option.map_eq_some_iff] at found
    obtain ⟨pair, hit, same⟩ := found
    have among := List.mem_reverse.1 (List.mem_of_find?_eq_some hit)
    obtain ⟨m, inList, rfl⟩ := List.mem_map.1 among
    obtain rfl : m = entry.2 := same
    exact ⟨inList, by simpa using List.find?_some hit⟩
  · cases made

/-- The graph that modules make keeps them so, where each module keeps its declarations so. -/
theorem keyed_of_ofModules {ms : List Module} {g : Graph} (made : ofModules ms = .ok g)
    (decls : ∀ m ∈ ms, Entries.Distinct m.decls ∧ ∀ e ∈ m.decls, e.1.key?.isSome) : g.Keyed where
  modules := by
    rw [ofModules] at made
    split at made
    · cases made
      exact (Entries.ofList_spec _).1
    · cases made
  decls entry member := (decls _ (mem_of_ofModules made member).1).1
  keys entry member := by
    obtain ⟨inList, named⟩ := mem_of_ofModules made member
    obtain ⟨k, _, isKey⟩ := Value.same_iff.1 named
    exact ⟨by rw [isKey]; rfl, (decls _ inList).2⟩

/-- The declarations of a graph, module by module. -/
def kept (g : Graph) : List KeptDecl :=
  g.modules.flatMap fun entry => entry.2.decls.map (KeptDecl.ofEntries entry)

def listing (g : Graph) : List KeptDecl :=
  sortBy KeptDecl.place g.kept

variable {g : Graph} {x : KeptDecl}

theorem mem_kept :
    x ∈ g.kept ↔ ∃ entry ∈ g.modules, ∃ e ∈ entry.2.decls, KeptDecl.ofEntries entry e = x := by
  simp only [kept, List.mem_flatMap, List.mem_map]

theorem resolve_eq_ok {name : ScopedName} {d : ScopedDecl} : g.resolve name = .ok d ↔
    ∃ m, Entries.find? g.modules name.moduleName = some m ∧
      Entries.find? m.decls name.name = some d.decl ∧ d.moduleName = m.name := by
  constructor
  · intro found
    rw [resolve] at found
    split at found
    · cases found
    split at found
    · cases found
    rename_i m loaded
    split at found
    · cases found
    split at found
    · cases found
    rename_i decl declared
    cases found
    exact ⟨m, loaded, declared, rfl⟩
  · rintro ⟨m, loaded, declared, owner⟩
    have isKey {α : Type} {entries : List (Value × α)} {key : Value} {value : α}
        (found : Entries.find? entries key = some value) : key.key?.isNone = false := by
      obtain ⟨_, like, _⟩ := Entries.mem_of_find? found
      obtain ⟨k, _, keyed⟩ := Value.same_iff.1 like
      rw [keyed, Option.isNone_some]
    obtain ⟨_, decl⟩ := d
    cases owner
    simp [resolve, isKey loaded, loaded, isKey declared, declared]

/-- What a graph finds under a name is kept there. -/
theorem kept_of_resolve {name : ScopedName} {d : ScopedDecl} (found : g.resolve name = .ok d) :
    ∃ x ∈ g.kept, x.moduleName.same name.moduleName ∧ x.key.same name.name ∧ x.decl = d.decl := by
  obtain ⟨m, loaded, declared, _⟩ := resolve_eq_ok.1 found
  obtain ⟨known, likeModule, inGraph⟩ := Entries.mem_of_find? loaded
  obtain ⟨key, likeKey, inModule⟩ := Entries.mem_of_find? declared
  exact ⟨_, mem_kept.2 ⟨_, inGraph, _, inModule, rfl⟩, likeModule, likeKey, rfl⟩

/-- What is kept under a name is found there. -/
theorem resolve_of_kept (keyed : g.Keyed) {x : KeptDecl} (member : x ∈ g.kept) {name : ScopedName}
    (likeModule : x.moduleName.same name.moduleName) (likeKey : x.key.same name.name) :
    ∃ d, g.resolve name = .ok d ∧ d.decl = x.decl := by
  obtain ⟨entry, inGraph, e, inModule, rfl⟩ := mem_kept.1 member
  have loaded : Entries.find? g.modules name.moduleName = some entry.2 :=
    (Entries.find?_eq_some keyed.modules).2 ⟨entry.1, likeModule, inGraph⟩
  have declared : Entries.find? entry.2.decls name.name = some e.2 :=
    (Entries.find?_eq_some (keyed.decls entry inGraph)).2 ⟨e.1, likeKey, inModule⟩
  exact ⟨⟨entry.2.name, e.2⟩, resolve_eq_ok.2 ⟨entry.2, loaded, declared, rfl⟩, rfl⟩

theorem mem_listing : x ∈ g.listing ↔ x ∈ g.kept :=
  (sortBy_perm _ _).mem_iff

theorem renamingCount_eq (g : Graph) :
    g.renamingCount = g.kept.countP fun x => x.decl.body.renamed?.isSome := by
  rw [renamingCount, kept, List.countP_flatMap, List.countP_flatMap]
  simp only [Function.comp_def, List.countP_map]
  rfl

theorem kept_pairwise (keyed : g.Keyed) : g.kept.Pairwise fun x y => ¬ x.Same y := by
  rw [kept, List.pairwise_flatMap]
  constructor
  · intro entry inGraph
    rw [List.pairwise_map]
    refine (keyed.decls entry inGraph).imp fun {a b} apart same => ?_
    exact Bool.eq_false_iff.1 apart same.2
  · refine keyed.modules.imp fun {a b} apart x inA y inB same => ?_
    obtain ⟨_, _, rfl⟩ := List.mem_map.1 inA
    obtain ⟨_, _, rfl⟩ := List.mem_map.1 inB
    exact Bool.eq_false_iff.1 apart same.1

theorem HasTextKeys.of_kept (texts : g.HasTextKeys) (member : x ∈ g.kept) :
    x.moduleName.text?.isSome ∧ x.key.text?.isSome := by
  obtain ⟨entry, inGraph, e, inModule, rfl⟩ := mem_kept.1 member
  exact ⟨(texts entry inGraph).1, (texts entry inGraph).2 e inModule⟩

/-- A declaration that is kept under texts is kept in one place with itself. -/
theorem HasTextKeys.same_self (texts : g.HasTextKeys) (member : x ∈ g.kept) : x.Same x :=
  (texts.of_kept member).imp
    (fun isText => Value.same_self (Option.isSome_iff_ne_none.1 (Value.key?_of_text isText)))
    fun isText => Value.same_self (Option.isSome_iff_ne_none.1 (Value.key?_of_text isText))

theorem listing_pairwise (keyed : g.Keyed) (texts : g.HasTextKeys) :
    g.listing.Pairwise fun x y => x.place < y.place := by
  refine sortBy_pairwise_lt ((kept_pairwise keyed).imp_of_mem fun {x y} isX isY apart level => ?_)
  obtain ⟨inModule, isText⟩ := texts.of_kept isX
  obtain ⟨inModule', isText'⟩ := texts.of_kept isY
  have modules : x.moduleName = y.moduleName :=
    Value.eq_of_keyText inModule inModule' (congrArg (fun place => (ofLex place).1) level)
  have keys : x.key = y.key :=
    Value.eq_of_keyText isText isText' (congrArg (fun place => (ofLex place).2) level)
  refine apart ?_
  rw [KeptDecl.Same, ← modules, ← keys]
  exact texts.same_self isX

/-- Sorting modules and then the declarations of each is sorting all declarations. -/
theorem listing_eq (keyed : g.Keyed) (texts : g.HasTextKeys) :
    g.listing = (sortBy (·.1.keyText) g.modules).flatMap fun entry =>
      (sortBy (·.1.keyText) entry.2.decls).map (KeptDecl.ofEntries entry) := by
  have perm : g.listing.Perm ((sortBy (·.1.keyText) g.modules).flatMap fun entry =>
      (sortBy (·.1.keyText) entry.2.decls).map (KeptDecl.ofEntries entry)) := by
    refine (sortBy_perm _ _).trans (List.Perm.flatMap (sortBy_perm _ _).symm ?_)
    exact fun entry _ => (sortBy_perm _ _).symm.map _
  refine eq_of_perm_of_lt perm (listing_pairwise keyed texts) ?_
  rw [List.pairwise_flatMap]
  constructor
  · intro entry member
    have inGraph := (sortBy_perm _ _).mem_iff.1 member
    rw [List.pairwise_map]
    refine (sortBy_pairwise_lt
      (Value.keyText_ne (keyed.decls entry inGraph) (texts entry inGraph).2)).imp ?_
    exact fun below => Prod.Lex.toLex_lt_toLex.2 (.inr ⟨rfl, below⟩)
  · refine (sortBy_pairwise_lt
      (Value.keyText_ne keyed.modules fun entry inGraph => (texts entry inGraph).1)).imp ?_
    intro a b below x inA y inB
    obtain ⟨_, _, rfl⟩ := List.mem_map.1 inA
    obtain ⟨_, _, rfl⟩ := List.mem_map.1 inB
    exact Prod.Lex.toLex_lt_toLex.2 (.inl below)

end Graph

/-- Steps for the parts of a list of lists are the steps for all items, one after another. -/
theorem Outcome.flatten_mapM {ε α β γ : Type} {part : α → Except ε (List γ)} {parts : α → List β}
    {step : β → Except ε (Option γ)} {xs : List α}
    (each : ∀ x ∈ xs, part x = List.filterMap id <$> (parts x).mapM step) :
    List.flatten <$> xs.mapM part = List.filterMap id <$> (xs.flatMap parts).mapM step := by
  induction xs with
  | nil => rfl
  | cons x xs ih =>
    have rest := ih fun x' member => each x' (List.mem_cons_of_mem _ member)
    rw [List.flatMap_cons, List.mapM_append, List.mapM_cons, each x List.mem_cons_self]
    cases (parts x).mapM step with
    | error _ => rfl
    | ok found =>
      cases left : xs.mapM part <;> cases right : (xs.flatMap parts).mapM step <;>
        simp_all [Functor.map, Except.map]

/-- What a list of steps gives, where steps may give nothing. -/
theorem Outcome.filterMap_of_mapM {ε α β : Type} {f : α → Except ε (Option β)} {xs : List α}
    {ys : List (Option β)} (steps : xs.mapM f = .ok ys) :
    ys.filterMap id = xs.filterMap fun x => (f x).toOption.join := by
  have related := mapM_eq_ok.1 steps
  clear steps
  induction related with
  | nil => rfl
  | @cons x y _ _ given _ ih =>
    rw [List.filterMap_cons, List.filterMap_cons, ih, given]
    rfl

namespace Graph

variable {g : Graph}

private theorem outcome_ofModule {entry : Value × Module}
    (texts : ∀ e ∈ entry.2.decls, e.1.text?.isSome) :
    (TableDecl.ofModule entry).outcome = List.filterMap id <$>
      ((sortBy (·.1.keyText) entry.2.decls).map (KeptDecl.ofEntries entry)).mapM
        fun x => (TableDecl.ofDecl x.owned).outcome := by
  simp only [TableDecl.ofModule, declsOf, Journaled.outcome_bind, Journaled.outcome_monadLift,
    Journaled.outcome_mapM, Journaled.outcome_pure, Value.sortByKey_eq_sortBy texts,
    Outcome.ok_bind, Outcome.pure_eq_ok, List.mapM_map, map_eq_pure_bind]
  rfl

/-- The tables of a graph are those that its declarations ask for, from the first declaration to the
last, sorted by name. -/
theorem outcome_tables (keyed : g.Keyed) (texts : g.HasTextKeys) :
    g.tables.outcome = (fun found => sortBy (·.name) (found.filterMap id)) <$>
      g.listing.mapM fun x => (TableDecl.ofDecl x.owned).outcome := by
  have ordered := Value.sortByKey_eq_sortBy fun entry inGraph => (texts entry inGraph).1
  have flat : List.flatten <$> (sortBy (·.1.keyText) g.modules).mapM (fun entry =>
      (TableDecl.ofModule entry).outcome) =
        List.filterMap id <$> g.listing.mapM fun x => (TableDecl.ofDecl x.owned).outcome := by
    rw [listing_eq keyed texts]
    refine Outcome.flatten_mapM fun entry member => ?_
    exact outcome_ofModule (texts entry ((sortBy_perm _ _).mem_iff.1 member)).2
  calc g.tables.outcome
    _ = sortBy (·.name) <$> List.flatten <$> (sortBy (·.1.keyText) g.modules).mapM fun entry =>
          (TableDecl.ofModule entry).outcome := by
        simp only [tables, Journaled.outcome_bind, Journaled.outcome_monadLift,
          Journaled.outcome_mapM, Journaled.outcome_pure, ordered, Outcome.ok_bind]
        cases (sortBy (·.1.keyText) g.modules).mapM fun entry =>
          (TableDecl.ofModule entry).outcome <;> rfl
    _ = _ := by
        rw [flat]
        cases g.listing.mapM fun x => (TableDecl.ofDecl x.owned).outcome <;> rfl

end Graph

end AdlTables
