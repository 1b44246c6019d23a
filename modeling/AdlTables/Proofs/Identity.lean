import AdlTables.Proofs.Listing
import AdlTables.Proofs.Loading

/-! # The identity of declarations

A declaration is kept under a key of its module, and it gives itself a name. The graph looks up and
lists declarations by their keys, while a scoped name holds the name. A load brings the two together
nowhere, so names identify declarations exactly if every declaration is kept under its own name.
-/

namespace AdlTables

variable {v : Value} {m : Module}

namespace Module

/-- A module keeps one declaration under each key. -/
structure Keyed (m : Module) : Prop where
  distinct : Entries.Distinct m.decls
  keys : ∀ e ∈ m.decls, e.1.key?.isSome

theorem Keyed.inReading (keyed : m.Keyed) (r : Reading) : (m.inReading r).Keyed where
  distinct := by
    rw [Entries.Distinct, Module.inReading, Module.mapValues, List.pairwise_map, List.pairwise_map]
    exact keyed.distinct.imp fun apart => (Value.same_inReading r _ _).trans apart
  keys := by
    intro e member
    simp only [Module.inReading, Module.mapValues, List.map_map, List.mem_map] at member
    obtain ⟨e, among, rfl⟩ := member
    simpa using keyed.keys e among

private theorem declsOf_keyed {entries : List (Value × Value)}
    {done decls : List (Value × Declaration)} (read : declsOf done entries = .ok decls)
    (distinct : Entries.Distinct done) (keys : ∀ key ∈ Entries.keys done, key.key?.isSome) :
    Entries.Distinct decls ∧ ∀ key ∈ Entries.keys decls, key.key?.isSome := by
  induction entries generalizing done with
  | nil =>
    cases read
    exact ⟨distinct, keys⟩
  | cons entry rest ih =>
    obtain ⟨key, v⟩ := entry
    rw [declsOf] at read
    obtain ⟨d, -, read⟩ := Outcome.bind_eq_ok.1 read
    obtain ⟨more, inserted, read⟩ := Outcome.bind_eq_ok.1 read
    rw [insert] at inserted
    split at inserted
    · rename_i isKey
      cases inserted
      refine ih read (Entries.distinct_put distinct) fun other member => ?_
      rw [Entries.keys_put] at member
      split at member
      · exact keys other member
      · rcases List.mem_append.1 member with before | last
        · exact keys other before
        · rwa [List.mem_singleton.1 last]
    · cases inserted

private theorem keyed_of_ofValue (read : ofValue v = .ok m) : m.Keyed := by
  rw [ofValue] at read
  split at read
  · split at read <;> cases read
  · cases read
  rename_i name decls parted
  simp only [Outcome.bind_eq_ok, Outcome.pure_eq_ok, Except.ok.injEq] at read
  obtain ⟨_, _, _, _, _, _, _, _, rfl⟩ := read
  rw [parts] at parted
  simp only [Outcome.bind_eq_ok, Outcome.pure_eq_ok, Except.ok.injEq, Prod.mk.injEq] at parted
  obtain ⟨_, _, _, _, entries, _, decls', read, rfl, rfl⟩ := parted
  obtain ⟨distinct, keys⟩ := declsOf_keyed read .nil fun _ => nofun
  exact ⟨distinct, fun e member => keys e.1 (List.mem_map_of_mem member)⟩

theorem Keyed.mapValues {f : Value → Value} (keyed : m.Keyed) : (m.mapValues f).Keyed where
  distinct := List.pairwise_map.2 keyed.distinct
  keys e member := by
    obtain ⟨e', member', rfl⟩ := List.mem_map.1 member
    exact keyed.keys e' member'

end Module

namespace Document

private theorem keyed_of_modulesOf {whole : Option Nat} {entries : List (Value × Value)}
    {done ms : List Module} (read : modulesOf whole done entries = .ok ms)
    (keyed : ∀ m ∈ done, m.Keyed) : ∀ m ∈ ms, m.Keyed := by
  have behind {m : Module} {before : List Module} (keyed : ∀ m ∈ before, m.Keyed)
      (last : m.Keyed) : ∀ m' ∈ before ++ [m], m'.Keyed :=
    List.forall_mem_append.2 ⟨keyed, List.forall_mem_singleton.2 last⟩
  -- a name that a mapping gets changes the entries behind it, so the induction is on their number
  induction size : entries.length generalizing entries done with
  | zero =>
    obtain rfl := List.length_eq_zero_iff.1 size
    rw [modulesOf] at read
    cases read
    exact keyed
  | succ n ih =>
    obtain ⟨⟨key, v⟩, rest, rfl⟩ := List.exists_cons_of_length_eq_add_one size
    have fewer : rest.length = n := Nat.succ.inj size
    rw [modulesOf] at read
    split at read
    · split at read
      · obtain ⟨m, encoded, read⟩ := Outcome.bind_eq_ok.1 read
        exact ih read (behind keyed (Module.keyed_of_ofValue encoded)) fewer
      · obtain ⟨m, encoded, read⟩ := Outcome.bind_eq_ok.1 read
        split at read
        · cases read
        · refine ih read (behind ?_ (Module.keyed_of_ofValue encoded)) (by simpa using fewer)
          rintro _ member
          obtain ⟨m', before, rfl⟩ := List.mem_map.1 member
          exact (keyed m' before).mapValues
    · obtain ⟨m, encoded, read⟩ := Outcome.bind_eq_ok.1 read
      exact ih read (behind keyed (Module.keyed_of_ofValue encoded)) fewer

private theorem keyed_of_modules? {ms : List Module} (read : modules? v = .ok (some ms)) :
    ∀ m ∈ ms, m.Keyed := by
  rw [modules?] at read
  split at read
  · split at read
    · obtain ⟨m, encoded, same⟩ := Outcome.bind_eq_ok.1 read
      cases same
      intro m' member
      rw [List.mem_singleton.1 member]
      exact Module.keyed_of_ofValue encoded
    · obtain ⟨ms', encoded, same⟩ := Outcome.bind_eq_ok.1 read
      cases same
      exact keyed_of_modulesOf encoded fun _ => nofun
  · cases read

end Document

private theorem Files.keyed_of_modulesAt {f : Files} {p : Path} {ms : List Module}
    (read : f.modulesAt p = .ok ms) : ∀ m ∈ ms, m.Keyed := by
  rw [modulesAt] at read
  split at read
  · cases read
  · cases read
  · cases read
  · split at read
    · cases read
    · cases read
    · split at read
      · cases read
      · cases read
      · cases read
        exact Document.keyed_of_modules? ‹_›

theorem Standard.keyed {entry : Value × Module} (member : entry ∈ Standard.modules) :
    entry.2.Keyed := by
  simp only [modules, List.map_cons, List.map_nil, List.mem_cons, List.not_mem_nil,
    or_false] at member
  rcases member with rfl | rfl | rfl
  all_goals
    constructor
    · simp [sysTypes, common, commonDb, moduleOf, declare, Entries.Distinct]
    · simp [sysTypes, common, commonDb, moduleOf, declare]

private theorem Standard.isKey_name {entry : Value × Module} (member : entry ∈ Standard.modules) :
    entry.2.name.key?.isSome := by
  simp only [modules, List.map_cons, List.map_nil, List.mem_cons, List.not_mem_nil,
    or_false] at member
  rcases member with rfl | rfl | rfl <;> rfl

section

variable {f : Files} {paths dirs : List String} {named : List Module} {l : Loaded}
  {P : Module → Prop}

/-- A round takes up modules in files and standard modules only. -/
theorem Files.forall_of_round {g g' : Gathering}
    (inFiles : ∀ p ms, f.modulesAt p = .ok ms → ∀ m ∈ ms, ∀ r, P (m.inReading r))
    (standard : ∀ entry ∈ Standard.modules, P entry.2)
    (holds : ∀ entry ∈ g.modules, entry.2.name.key?.isSome ∧ P entry.2)
    (round : Gathering.Round (.ofFiles f (dirs.map .ofString)) g g') :
    ∀ entry ∈ g'.modules, entry.2.name.key?.isSome ∧ P entry.2 := by
  obtain ⟨name, pending, -, looked⟩ := round
  obtain ⟨taken, read, rfl, -, reason⟩ := Gathering.look_eq_ok looked
  intro entry member
  rcases List.mem_append.1 member with before | new
  · exact holds entry before
  obtain ⟨m, isTaken, rfl⟩ := List.mem_map.1 new
  rcases reason with ⟨-, rfl, -⟩ |
    ⟨-, ⟨place, found, chosen, searched, sub, rfl, -, present⟩ | ⟨m', -, isStandard, rfl, -⟩⟩
  · cases isTaken
  · obtain ⟨x, isChosen, rfl⟩ := List.mem_map.1 isTaken
    have inFile := sub.subset isChosen
    obtain ⟨_, _, same⟩ := Entries.has_iff.1 (present x inFile)
    obtain ⟨_, _, isKey⟩ := Value.same_iff.1 same
    exact ⟨Option.isSome_of_eq_some isKey,
      inFiles _ found (search_eq_ok.1 searched).2 x inFile _⟩
  · obtain rfl := List.mem_singleton.1 isTaken
    obtain ⟨known, _, member⟩ := Entries.mem_of_find? isStandard
    show m.name.key?.isSome ∧ P m
    exact ⟨Standard.isKey_name member, standard _ member⟩

/-- What holds of the modules in files, in every reading, and of the standard modules holds of every
module of a load, and so does that its name is a key. -/
theorem Files.forall_of_load (loaded : (f.load paths dirs).outcome = .ok l)
    (inFiles : ∀ p ms, f.modulesAt p = .ok ms → ∀ m ∈ ms, ∀ r, P (m.inReading r))
    (standard : ∀ entry ∈ Standard.modules, P entry.2) :
    ∀ entry ∈ l.modules, entry.2.name.key?.isSome ∧ P entry.2 := by
  obtain ⟨named, modules, read, names, finished, eq⟩ := load_eq_ok loaded
  have start : ∀ entry ∈ (Gathering.start named).modules,
      entry.2.name.key?.isSome ∧ P entry.2 := by
    intro entry member
    have value := Entries.mem_values_ofList (List.mem_map_of_mem member)
    simp only [Entries.values, List.map_map, List.mem_map, Function.comp_apply] at value
    obtain ⟨m, isNamed, rfl⟩ := value
    obtain ⟨file, -, found, atPath, x, isFound, same⟩ := exists_of_named read isNamed
    exact ⟨(names _ isNamed).2, same ▸ inFiles _ found atPath x isFound _⟩
  rw [eq]
  intro entry member
  rcases Loaded.mem_withStandard member with gathered | isStandard
  · obtain ⟨_, last, rounds, -, rfl⟩ := Gathering.exists_rounds_of_finish finished
    exact rounds.keeps (forall_of_round inFiles standard) start entry gathered
  · exact ⟨Standard.isKey_name isStandard, standard entry isStandard⟩

end

namespace Graph

variable {g : Graph} {x : KeptDecl} {ds : List ScopedDecl}

def ownedBy (entry : Value × Module) : List ScopedDecl :=
  entry.2.decls.map fun e => ⟨entry.1, e.2⟩

private theorem map_owned_kept (g : Graph) :
    g.kept.map KeptDecl.owned = g.modules.flatMap ownedBy := by
  rw [kept, List.map_flatMap]
  simp only [List.map_map]
  rfl

private theorem perm_of_steps {entries : List (Value × Module)} {lists : List (List ScopedDecl)}
    (steps : entries.mapM declsOf = .ok lists) :
    lists.flatten.Perm (entries.flatMap ownedBy) := by
  have related := Outcome.mapM_eq_ok.1 steps
  clear steps
  induction related with
  | nil => exact .nil
  | cons first _ ih =>
    obtain ⟨decls, sorted, same⟩ := Outcome.bind_eq_ok.1 first
    cases same
    exact ((Value.sortByKey_perm sorted).map _).append ih

/-- A listing runs through the declarations that a graph keeps, each once. -/
theorem perm_of_scopedDecls (listed : g.scopedDecls = .ok ds) :
    ds.Perm (g.kept.map KeptDecl.owned) := by
  obtain ⟨sorted, ordered, listed⟩ := Outcome.bind_eq_ok.1 listed
  obtain ⟨lists, steps, same⟩ := Outcome.bind_eq_ok.1 listed
  cases same
  rw [map_owned_kept]
  exact (perm_of_steps steps).trans ((Value.sortByKey_perm ordered).flatMap fun _ _ => .refl _)

/-- Where all keys are texts there is a listing. -/
theorem scopedDecls_of_texts (keyed : g.Keyed) (texts : g.HasTextKeys) :
    g.scopedDecls = .ok (g.listing.map KeptDecl.owned) := by
  have steps : (sortBy (·.1.keyText) g.modules).mapM declsOf = .ok
      ((sortBy (·.1.keyText) g.modules).map fun entry =>
        (sortBy (·.1.keyText) entry.2.decls).map fun e => ⟨entry.1, e.2⟩) := by
    refine Outcome.mapM_eq_ok.2 (List.forall₂_map_right_iff.2 (List.forall₂_same.2 ?_))
    intro entry member
    have inGraph := (sortBy_perm _ _).mem_iff.1 member
    rw [declsOf, Value.sortByKey_eq_sortBy (texts entry inGraph).2]
    rfl
  rw [scopedDecls, Value.sortByKey_eq_sortBy fun entry inGraph => (texts entry inGraph).1,
    Outcome.ok_bind, steps, listing_eq keyed texts, List.map_flatMap, List.flatMap_def]
  simp only [List.map_map]
  rfl

/-- Scoped names identify the declarations of a graph: each is found under its scoped name, what is
found under a scoped name bears it, and no two bear the same. -/
structure Coherent (g : Graph) : Prop where
  found : ∀ x ∈ g.kept, g.contains x.owned.scopedName = .ok true ∧
    ∃ d, g.resolve x.owned.scopedName = .ok d ∧ d.moduleName.same x.moduleName ∧ d.decl = x.decl
  named : ∀ n d, g.resolve n = .ok d → d.scopedName.same n
  distinct : g.kept.Pairwise fun x y => x.owned.scopedName.same y.owned.scopedName = false

section

variable (keyed : g.Keyed) (named : ∀ entry ∈ g.modules, entry.2.name.same entry.1)

include keyed named

/-- A declaration is found under its module and whatever is the same as its key. -/
theorem found_of_key (member : x ∈ g.kept) {name : Value} (same : x.key.same name) :
    g.contains ⟨x.moduleName, name⟩ = .ok true ∧
      ∃ d, g.resolve ⟨x.moduleName, name⟩ = .ok d ∧ d.moduleName.same x.moduleName ∧
        d.decl = x.decl := by
  obtain ⟨entry, inGraph, e, inModule, rfl⟩ := mem_kept.1 member
  have likeSelf : entry.1.same entry.1 :=
    Value.same_self (Option.isSome_iff_ne_none.1 (keyed.keys entry inGraph).1)
  have loaded : Entries.find? g.modules entry.1 = some entry.2 :=
    (Entries.find?_eq_some keyed.modules).2 ⟨entry.1, likeSelf, inGraph⟩
  have declared : Entries.find? entry.2.decls name = some e.2 :=
    (Entries.find?_eq_some (keyed.decls entry inGraph)).2 ⟨e.1, same, inModule⟩
  refine ⟨?_, ⟨entry.2.name, e.2⟩, resolve_eq_ok.2 ⟨entry.2, loaded, declared, rfl⟩,
    named entry inGraph, rfl⟩
  obtain ⟨_, _, isKey⟩ := Value.same_iff.1 same
  have present : Entries.has entry.2.decls name := by
    rw [← Entries.find?_isSome, declared]
    rfl
  have isKey' := (keyed.keys entry inGraph).1
  have here : entry.1.key?.isNone = false := by simpa using isKey'
  simp [contains, KeptDecl.ofEntries, here, isKey, loaded, present]

/-- Scoped names identify declarations exactly if each is kept under its own name. -/
theorem coherent_iff : g.Coherent ↔ ∀ x ∈ g.kept, x.key.same x.decl.name := by
  constructor
  · intro coherent x member
    have sameKey : x.key.same x.key := by
      obtain ⟨entry, inGraph, e, inModule, rfl⟩ := mem_kept.1 member
      exact Value.same_self (Option.isSome_iff_ne_none.1 ((keyed.keys entry inGraph).2 e inModule))
    obtain ⟨-, d, found, -, same⟩ := found_of_key keyed named member sameKey
    have bears := coherent.named _ d found
    rw [ScopedName.same, Bool.and_eq_true] at bears
    have likeKey : d.decl.name.same x.key := bears.2
    rw [same] at likeKey
    exact Value.same_symm likeKey
  · intro own
    refine ⟨fun x member => found_of_key keyed named member (own x member), ?_, ?_⟩
    · intro n d found
      obtain ⟨m, loaded, declared, owner⟩ := resolve_eq_ok.1 found
      obtain ⟨known, likeModule, inGraph⟩ := Entries.mem_of_find? loaded
      obtain ⟨key, likeKey, inModule⟩ := Entries.mem_of_find? declared
      have isKept := mem_kept.2 ⟨_, inGraph, _, inModule, rfl⟩
      have moduleSame : d.moduleName.same n.moduleName := by
        rw [owner]
        exact Value.same_trans (named _ inGraph) likeModule
      have nameSame : d.decl.name.same n.name :=
        Value.same_trans (Value.same_symm (own _ isKept)) likeKey
      rw [ScopedName.same, Bool.and_eq_true]
      exact ⟨moduleSame, nameSame⟩
    · refine (kept_pairwise keyed).imp_of_mem fun {x y} isX isY apart => ?_
      rw [Bool.eq_false_iff]
      intro same
      rw [ScopedName.same, Bool.and_eq_true] at same
      exact apart ⟨same.1, Value.same_trans (own x isX)
        (Value.same_trans same.2 (Value.same_symm (own y isY)))⟩

end

end Graph

namespace Files

variable {f : Files} {paths dirs : List String} {l : Loaded}

/-- The modules of a load make a graph that keeps one module under each name, and one declaration
under each key of a module. -/
theorem exists_graph (loaded : (f.load paths dirs).outcome = .ok l) :
    ∃ g, l.graph = .ok g ∧ g.Keyed ∧ ∀ entry ∈ g.modules, entry.2.name.same entry.1 := by
  have each := forall_of_load loaded
    (fun _ _ read m member r => (keyed_of_modulesAt read m member).inReading r)
    fun _ => Standard.keyed
  have each' : ∀ m ∈ Entries.values l.modules, m.name.key?.isSome ∧ m.Keyed := by
    intro m member
    obtain ⟨entry, among, rfl⟩ := List.mem_map.1 member
    exact each entry among
  have names : (Entries.values l.modules).all fun m => m.name.key?.isSome :=
    List.all_eq_true.2 fun m member => (each' m member).1
  obtain ⟨g, made⟩ : ∃ g, l.graph = .ok g := ⟨_, if_pos names⟩
  refine ⟨g, made, Graph.keyed_of_ofModules made fun m member => ?_, fun entry member => ?_⟩
  · exact ⟨(each' m member).2.distinct, (each' m member).2.keys⟩
  · exact (Graph.mem_of_ofModules made member).2

/-- A load gives a graph; its listing runs through the declarations that it keeps, and scoped names
identify these exactly if each is kept under its own name. -/
theorem load_coherent_iff (loaded : (f.load paths dirs).outcome = .ok l) :
    ∃ g, l.graph = .ok g ∧
      (∀ ds, g.scopedDecls = .ok ds → ds.Perm (g.kept.map KeptDecl.owned)) ∧
      (g.HasTextKeys → ∃ ds, g.scopedDecls = .ok ds) ∧
      (g.Coherent ↔ ∀ x ∈ g.kept, x.key.same x.decl.name) := by
  obtain ⟨g, made, keyed, named⟩ := exists_graph loaded
  refine ⟨g, made, fun _ => Graph.perm_of_scopedDecls, fun texts => ?_, ?_⟩
  · exact ⟨_, Graph.scopedDecls_of_texts keyed texts⟩
  · exact Graph.coherent_iff keyed named

namespace Misnamed

/-- A module whose two declarations both call themselves `B`. -/
def files : Files where
  current := []
  entries := [(["m.json"], .file
    ("\x7b\"name\": \"m\", \"decls\": \x7b" ++
      "\"A\": \x7b\"name\": \"B\", \"type_\": \x7b\"struct_\": \x7b\"fields\": []\x7d\x7d\x7d, " ++
      "\"B\": \x7b\"name\": \"B\", \"type_\": \x7b\"union_\": \x7b\"fields\": []\x7d\x7d\x7d" ++
      "\x7d\x7d").toUTF8)]

/-- Whether modules are one that imports nothing and keeps a declaration called `B` under `A`. -/
def misnames : List Module → Bool
  | [m] => m.name.text? == some "m" && m.imports.isEmpty &&
    m.decls.any fun e => e.1.text? == some "A" && e.2.name.text? == some "B"
  | _ => false

theorem exists_load : ∃ l g x, (files.load ["m.json"] []).outcome = .ok l ∧ l.graph = .ok g ∧
    x ∈ g.kept ∧ x.key = .text "A" ∧ x.decl.name = .text "B" := by
  have only : (files.named ["m.json"]).toOption.any misnames := by decide +kernel
  obtain ⟨ms, read, only⟩ := Outcome.any_toOption.1 only
  match ms, only with
  | [⟨name, decls, imports, annotations⟩], only =>
    simp only [misnames, Bool.and_eq_true, beq_iff_eq, List.any_eq_true, List.isEmpty_iff,
      Value.text?_eq_some] at only
    obtain ⟨⟨rfl, rfl⟩, e, inModule, isKey, isName⟩ := only
    have loaded := outcome_load [] read (by simpa using Module.isNamed_of_text rfl)
    have start (m : Module) (isText : m.name = .text "m") (none : m.imports = []) :
        Gathering.start [m] = ⟨[(.text "m", m)], [], []⟩ := by
      simp [Gathering.start, Entries.ofList, Entries.put, Entries.values, isText, none]
    rw [start _ rfl rfl, Gathering.outcome_finish_nil rfl] at loaded
    refine ⟨_, _, ⟨.text "m", e.1, e.2⟩, loaded, rfl, ?_, isKey, isName⟩
    exact Graph.mem_kept.2 ⟨_, List.mem_cons_self, e, inModule, rfl⟩

end Misnamed

/-- Scoped names do not identify the declarations of every load. -/
theorem not_always_coherent : ¬ ∀ (f : Files) (paths dirs : List String) (l : Loaded) (g : Graph),
    (f.load paths dirs).outcome = .ok l → l.graph = .ok g → g.Coherent := by
  intro always
  obtain ⟨l, g, x, loaded, made, member, isKey, isName⟩ := Misnamed.exists_load
  obtain ⟨g', made', keyed, named⟩ := exists_graph loaded
  obtain rfl := Except.ok.inj (made.symm.trans made')
  have own := (Graph.coherent_iff keyed named).1 (always _ _ _ l g loaded made) x member
  rw [isKey, isName] at own
  exact absurd own (by decide)

theorem misnamed_coherent_iff : ∃ l g, (Misnamed.files.load ["m.json"] []).outcome = .ok l ∧
    l.graph = .ok g ∧ (g.Coherent ↔ ∀ x ∈ g.kept, x.key.same x.decl.name) ∧
      ∃ x ∈ g.kept, x.key = .text "A" ∧ x.decl.name = .text "B" := by
  obtain ⟨l, g, x, loaded, made, member, isKey, isName⟩ := Misnamed.exists_load
  obtain ⟨g', made', -, -, iff⟩ := load_coherent_iff loaded
  obtain rfl := Except.ok.inj (made.symm.trans made')
  exact ⟨l, g, loaded, made, iff, x, member, isKey, isName⟩

end Files

end AdlTables
