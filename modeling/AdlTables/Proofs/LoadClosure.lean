import AdlTables.Proofs.Closure
import AdlTables.Proofs.Loading
import Mathlib.Data.Multiset.MapFold

/-! # Loads as closures

A load of files gives the closure of the named modules under imports. It fails exactly if a reached
name stands for nothing, which is reported, or if the search for one breaks down, which is not: the
search looks at a path that is too long, or has to put a suffix on a path without a last name. The
order in which names are looked at plays no part, so neither does the order of imports.
-/

namespace AdlTables

/-- A module with the order of its imports forgotten. -/
def Module.content (m : Module) : Module × Multiset Value :=
  ({ m with imports := [] }, m.imports)

private theorem Module.content_inReading (m : Module) (r : Reading) : (m.inReading r).content =
    (m.content.1.inReading r, m.content.2.map (Value.inReading r)) := rfl

namespace Files

variable (f : Files) (dirs : List String) (named : List Module)

/-- The module that a name stands for in a load. -/
def define : Value → Except Fault (Option Module) :=
  (Library.ofFiles f (dirs.map .ofString)).define named

/-- The names that a load has to reach. -/
def Reaches : Value → Prop :=
  (Library.ofFiles f (dirs.map .ofString)).Reaches named

/-- Named modules have names, files found for reached names hold the one module looked for, and all
imports are texts. -/
structure Tidy : Prop where
  isNamed : ∀ m ∈ named, m.IsNamed
  found {n : Value} {place : Path} : f.Reaches dirs named n → Module.last? named n = none →
    f.find (dirs.map .ofString) n = .ok (some place) →
      ∃ m, f.modulesAt place = .ok [m] ∧ m.name.same n
  texts {n k : Value} {m : Module} : f.Reaches dirs named n →
    f.define dirs named n = .ok (some m) → k ∈ m.imports → k.text?.isSome

/-- The search for a text looks at a path that is too long, or it has to put a suffix on a path
that has no last name. -/
def SearchBreaks (name : Value) (fault : Fault) : Prop :=
  f.find (dirs.map .ofString) name = .error fault ∧
    ∃ s, name = .text s ∧ ∃ dir ∈ dirs,
      none ∈ candidates (.ofString dir) s ∧ fault = .mishap .badValue ∨
        (∃ p, some p ∈ candidates (.ofString dir) s ∧ f.locate p = .tooLong) ∧
          fault = .mishap .refused

/-- Modules of reached names, under these names, and standard modules under all other names. -/
structure IsClosure (modules : List (Value × Module)) : Prop where
  distinct : Entries.Distinct modules
  reached {n : Value} : f.Reaches dirs named n →
    ∃ m, f.define dirs named n = .ok (some m) ∧ Entries.find? modules n = some m
  other {n : Value} : (∀ k, f.Reaches dirs named k → k.same n = false) →
    Entries.find? modules n = Entries.find? Standard.modules n

variable {f dirs named} {paths : List String} {l : Loaded} {fault : Fault}

private theorem firstFile_eq_error {candidates : List (Option Path)}
    (failed : f.firstFile candidates = .error fault) :
    none ∈ candidates ∧ fault = .mishap .badValue ∨
      (∃ p, some p ∈ candidates ∧ f.locate p = .tooLong) ∧ fault = .mishap .refused := by
  induction candidates with
  | nil => cases failed
  | cons candidate rest ih =>
    cases candidate with
    | none =>
      cases failed
      exact .inl ⟨List.mem_cons_self, rfl⟩
    | some p =>
      rw [firstFile] at failed
      cases isFile : f.isFile p with
      | error other =>
        obtain rfl : other = fault := by simpa [isFile] using failed
        rw [Files.isFile] at isFile
        split at isFile
        · cases isFile
        split at isFile <;> try cases isFile
        rename_i tooLong
        exact .inr ⟨⟨p, List.mem_cons_self, tooLong⟩, rfl⟩
      | ok isThere =>
        cases isThere with
        | true => simp [isFile] at failed
        | false =>
          have later : f.firstFile rest = .error fault := by simpa [isFile] using failed
          exact (ih later).imp (.imp_left (List.mem_cons_of_mem _))
            (.imp_left fun ⟨p, member, tooLong⟩ => ⟨p, List.mem_cons_of_mem _ member, tooLong⟩)

/-- Why the search for a text can fail. -/
theorem searchBreaks_of_find {s : String}
    (failed : f.find (dirs.map .ofString) (.text s) = .error fault) :
    f.SearchBreaks dirs (.text s) fault := by
  refine ⟨failed, s, rfl, ?_⟩
  rw [find] at failed
  split at failed
  · cases failed
  obtain ⟨member, reason⟩ | ⟨⟨p, member, tooLong⟩, reason⟩ := firstFile_eq_error failed
  · obtain ⟨_, searched, candidate⟩ := List.mem_flatMap.1 member
    obtain ⟨dir, isDir, rfl⟩ := List.mem_map.1 searched
    exact ⟨dir, isDir, .inl ⟨candidate, reason⟩⟩
  · obtain ⟨_, searched, candidate⟩ := List.mem_flatMap.1 member
    obtain ⟨dir, isDir, rfl⟩ := List.mem_map.1 searched
    exact ⟨dir, isDir, .inr ⟨⟨p, candidate, tooLong⟩, reason⟩⟩

theorem Tidy.library (tidy : f.Tidy dirs named) :
    (Library.ofFiles f (dirs.map .ofString)).Tidy named where
  isNamed := tidy.isNamed
  found reached unnamed searched := by
    obtain ⟨located, read⟩ := search_eq_ok.1 searched
    obtain ⟨m, only, same⟩ := tidy.found reached unnamed located
    obtain rfl := Except.ok.inj (read.symm.trans only)
    exact ⟨m, rfl, same⟩
  texts := tidy.texts

/-- The search for a reached name fails only where no file is found for it. -/
theorem Tidy.searchBreaks (tidy : f.Tidy dirs named) {n : Value} (reached : f.Reaches dirs named n)
    (unnamed : Module.last? named n = none)
    (failed : f.search (dirs.map .ofString) n = .error fault) : f.SearchBreaks dirs n fault := by
  obtain ⟨s, rfl⟩ := tidy.library.text reached unnamed
  refine searchBreaks_of_find ?_
  rw [search] at failed
  cases located : f.find (dirs.map .ofString) (.text s) with
  | error other =>
    obtain rfl : other = fault := by simpa [located] using failed
    rfl
  | ok place? =>
    cases place? with
    | none => simp [located] at failed
    | some place =>
      obtain ⟨m, read, _⟩ := tidy.found reached unnamed located
      simp [located, read] at failed

private theorem isClosure_of_load (read : f.named paths = .ok named) (tidy : f.Tidy dirs named)
    (loaded : (f.load paths dirs).outcome = .ok l) : f.IsClosure dirs named l.modules := by
  obtain ⟨named', modules, read', -, finished, eq⟩ := load_eq_ok loaded
  obtain rfl := Except.ok.inj (read.symm.trans read')
  obtain ⟨distinct, sound, closed⟩ := Gathering.finish_closed tidy.library finished
  rw [eq]
  refine ⟨Loaded.distinct_withStandard distinct, fun reached => ?_, fun {n} apart => ?_⟩
  · obtain ⟨m, defined, found⟩ := closed reached
    exact ⟨m, defined, by simp [Loaded.find?_withStandard, found]⟩
  · have absent : Entries.find? modules n = none := by
      by_contra present
      obtain ⟨m, found⟩ := Option.ne_none_iff_exists'.1 present
      obtain ⟨k, same, reached, _⟩ := sound found
      simp [apart k reached] at same
    simp [Loaded.find?_withStandard, absent]

/-- A load of tidy files fails if a reached name stands for nothing or the search for one breaks
down. -/
theorem load_fails (read : f.named paths = .ok named) (tidy : f.Tidy dirs named)
    (failed : (f.load paths dirs).outcome = .error fault) :
    ∃ n, f.Reaches dirs named n ∧ (f.define dirs named n = .ok none ∧
      fault = .problem (.importNotFound n (dirs.map fun dir => (Path.ofString dir).display)) ∨
        f.define dirs named n = .error fault ∧ f.SearchBreaks dirs n fault) := by
  rw [outcome_load dirs read tidy.isNamed] at failed
  match finished : (Gathering.finish (.ofFiles f (dirs.map .ofString)) (.start named)).outcome with
  | .ok modules => simp [finished, Except.map, Except.mapError] at failed
  | .error fault' =>
    obtain rfl : fault'.voiced = fault := by
      simpa [finished, Except.map, Except.mapError] using failed
    obtain ⟨n, reached, unnamed, reason⟩ := Gathering.finish_fails tidy.library finished
    obtain ⟨s, rfl⟩ := tidy.library.text reached unnamed
    refine ⟨.text s, reached, ?_⟩
    obtain searched | ⟨undefined, rfl⟩ := reason
    · have breaks := tidy.searchBreaks reached unnamed searched
      have unchanged : fault'.voiced = fault' := by
        obtain ⟨-, _, _, _, _, ⟨_, rfl⟩ | ⟨_, rfl⟩⟩ := breaks <;> rfl
      rw [unchanged]
      refine .inr ⟨?_, breaks⟩
      simp [define, Library.define, unnamed, show Library.search _ _ = _ from searched]
    · exact .inl ⟨undefined, by simp [Fault.voiced, Problem.shown, Value.isSayable, Library.ofFiles,
        Function.comp_def]⟩

/-- A load of tidy files succeeds if every reached name stands for a module. -/
theorem load_succeeds_iff (read : f.named paths = .ok named) (tidy : f.Tidy dirs named) :
    (∃ l, (f.load paths dirs).outcome = .ok l) ↔
      ∀ n, f.Reaches dirs named n → ∃ m, f.define dirs named n = .ok (some m) := by
  constructor
  · rintro ⟨l, loaded⟩ n reached
    obtain ⟨m, defined, _⟩ := (isClosure_of_load read tidy loaded).reached reached
    exact ⟨m, defined⟩
  · intro defined
    cases outcome : (f.load paths dirs).outcome with
    | ok l => exact ⟨l, rfl⟩
    | error fault =>
      obtain ⟨n, reached, ⟨undefined, _⟩ | ⟨undefined, _⟩⟩ := load_fails read tidy outcome
      · obtain ⟨m, stands⟩ := defined n reached
        cases undefined.symm.trans stands
      · obtain ⟨m, stands⟩ := defined n reached
        cases undefined.symm.trans stands

/-- Loads that succeed together, with modules that a view cannot tell apart under the same names. -/
def SameModules {β : Type} (view : Module → β) (x y : Journaled Loaded) : Prop :=
  ((∃ l, x.outcome = .ok l) ↔ ∃ l, y.outcome = .ok l) ∧
    ∀ l l', x.outcome = .ok l → y.outcome = .ok l' → ∀ n,
      (Entries.find? l'.modules n).map view = (Entries.find? l.modules n).map view

/-- Files and named modules that a view cannot tell apart. -/
structure Alike {β : Type} (view : Module → β) (f f' : Files) (dirs : List String)
    (named named' : List Module) : Prop where
  keeps {m m' : Module} : view m' = view m →
    m'.name = m.name ∧ ∀ k, k ∈ m'.imports ↔ k ∈ m.imports
  inReading {m m' : Module} (r : Reading) : view m' = view m →
    view (m'.inReading r) = view (m.inReading r)
  names : named'.map Module.name ⊆ named.map Module.name ∧
    named.map Module.name ⊆ named'.map Module.name
  last? (n : Value) : (Module.last? named' n).map view = (Module.last? named n).map view
  find (n : Value) : f'.find (dirs.map .ofString) n = f.find (dirs.map .ofString) n
  modulesAt {p : Path} {found : List Module} : f.modulesAt p = .ok found →
    ∃ found', f'.modulesAt p = .ok found' ∧ found'.map view = found.map view

section

variable {β : Type} {view : Module → β} {f' : Files} {named' : List Module} {paths' : List String}
  {n : Value}

private theorem Alike.modulesAt_singleton (alike : Alike view f f' dirs named named') {p : Path}
    {m : Module} (read : f.modulesAt p = .ok [m]) :
    ∃ m', f'.modulesAt p = .ok [m'] ∧ view m' = view m := by
  obtain ⟨found', read', views⟩ := alike.modulesAt read
  obtain ⟨m', rfl, like⟩ : ∃ m', found' = [m'] ∧ view m' = view m := by
    simpa [List.map_eq_cons_iff] using views
  exact ⟨m', read', like⟩

theorem Alike.define (alike : Alike view f f' dirs named named') (tidy : f.Tidy dirs named)
    (reached : f.Reaches dirs named n) : (f'.define dirs named' n).map (·.map view) =
      (f.define dirs named n).map (·.map view) := by
  have last := alike.last? n
  rw [Files.define, Library.define, Files.define, Library.define]
  cases unnamed : Module.last? named n with
  | some m =>
    obtain ⟨m', found, same⟩ : ∃ m', Module.last? named' n = some m' ∧ view m' = view m := by
      simpa [unnamed] using last
    simp [found, Except.map, same]
  | none =>
    have unnamed' : Module.last? named' n = none := by simpa [unnamed] using last
    simp only [unnamed', Library.ofFiles, Files.search, alike.find n]
    cases located : f.find (dirs.map .ofString) n with
    | error fault => rfl
    | ok place? =>
      cases place? with
      | none => rfl
      | some place =>
        obtain ⟨m, read, same⟩ := tidy.found reached unnamed located
        obtain ⟨m', read', like⟩ := alike.modulesAt_singleton read
        have same' : m'.name.same n := (alike.keeps like).1 ▸ same
        simp [read, read', same, same', alike.inReading _ like, Except.map]

private theorem exists_of_map_eq {x y : Except Fault (Option Module)} {m : Module}
    (views : y.map (·.map view) = x.map (·.map view)) (given : x = .ok (some m)) :
    ∃ m', y = .ok (some m') ∧ view m' = view m := by
  subst given
  cases y with
  | error fault => cases views
  | ok m? =>
    cases m? with
    | none => cases views
    | some m' => exact ⟨m', rfl, by simpa [Except.map] using views⟩

private theorem Alike.reaches_iff (alike : Alike view f f' dirs named named')
    (tidy : f.Tidy dirs named) : f'.Reaches dirs named' n ↔ f.Reaches dirs named n := by
  constructor
  · intro reached
    induction reached with
    | named member =>
      obtain ⟨m, isNamed, same⟩ := List.mem_map.1 (alike.names.1 (List.mem_map_of_mem member))
      exact same ▸ .named isNamed
    | imported _ defined imported reached =>
      obtain ⟨m, stands, same⟩ := exists_of_map_eq (alike.define tidy reached).symm defined
      exact .imported reached stands (((alike.keeps same.symm).2 _).1 imported)
  · intro reached
    induction reached with
    | named member =>
      obtain ⟨m, isNamed, same⟩ := List.mem_map.1 (alike.names.2 (List.mem_map_of_mem member))
      exact same ▸ .named isNamed
    | imported reached defined imported reached' =>
      obtain ⟨m, stands, same⟩ := exists_of_map_eq (alike.define tidy reached) defined
      exact .imported reached' stands (((alike.keeps same).2 _).2 imported)

theorem Alike.tidy (alike : Alike view f f' dirs named named') (tidy : f.Tidy dirs named) :
    f'.Tidy dirs named' where
  isNamed m member := by
    obtain ⟨m', isNamed, same⟩ := List.mem_map.1 (alike.names.1 (List.mem_map_of_mem member))
    rw [Module.IsNamed, ← same]
    exact tidy.isNamed m' isNamed
  found {n place} reached unnamed located := by
    have unnamed : Module.last? named n = none := by
      simpa [unnamed] using (alike.last? n).symm
    obtain ⟨m, read, same⟩ := tidy.found ((alike.reaches_iff tidy).1 reached) unnamed
      ((alike.find n).symm.trans located)
    obtain ⟨m', read', like⟩ := alike.modulesAt_singleton read
    exact ⟨m', read', (alike.keeps like).1 ▸ same⟩
  texts reached defined imported := by
    have reached := (alike.reaches_iff tidy).1 reached
    obtain ⟨m, stands, same⟩ := exists_of_map_eq (alike.define tidy reached).symm defined
    exact tidy.texts reached stands (((alike.keeps same.symm).2 _).1 imported)

/-- Loads of what a view cannot tell apart give what it cannot tell apart. -/
theorem Alike.sameModules (alike : Alike view f f' dirs named named')
    (read : f.named paths = .ok named) (read' : f'.named paths' = .ok named')
    (tidy : f.Tidy dirs named) :
    SameModules view (f.load paths dirs) (f'.load paths' dirs) := by
  have tidy' := alike.tidy tidy
  constructor
  · rw [load_succeeds_iff read tidy, load_succeeds_iff read' tidy']
    constructor
    · intro defined n reached
      have reached := (alike.reaches_iff tidy).1 reached
      obtain ⟨m, stands⟩ := defined n reached
      obtain ⟨m', stands', _⟩ := exists_of_map_eq (alike.define tidy reached) stands
      exact ⟨m', stands'⟩
    · intro defined n reached
      obtain ⟨m, stands⟩ := defined n ((alike.reaches_iff tidy).2 reached)
      obtain ⟨m', stands', _⟩ := exists_of_map_eq (alike.define tidy reached).symm stands
      exact ⟨m', stands'⟩
  · -- a name is that of a reached module in both loads or in neither
    intro l l' loaded loaded' n
    have closure := isClosure_of_load read tidy loaded
    have closure' := isClosure_of_load read' tidy' loaded'
    by_cases apart : ∀ k, f.Reaches dirs named k → k.same n = false
    · rw [closure.other apart,
        closure'.other fun k reached => apart k ((alike.reaches_iff tidy).1 reached)]
    · obtain ⟨k, reached, same⟩ : ∃ k, f.Reaches dirs named k ∧ k.same n := by simpa using apart
      obtain ⟨m, stands, found⟩ := closure.reached reached
      obtain ⟨m', stands', found'⟩ := closure'.reached ((alike.reaches_iff tidy).2 reached)
      obtain ⟨_, defined, like⟩ := exists_of_map_eq (alike.define tidy reached) stands
      obtain rfl : _ = m' := by simpa using defined.symm.trans stands'
      rw [← Entries.find?_congr same, ← Entries.find?_congr same, found, found', Option.map_some,
        Option.map_some, like]

end

/-- Files that differ from others in the order of their modules' imports at most. -/
structure Shuffles (f f' : Files) : Prop where
  isFile (p : Path) : f'.isFile p = f.isFile p
  modulesAt {p : Path} {found : List Module} : f.modulesAt p = .ok found →
    ∃ found', f'.modulesAt p = .ok found' ∧ found'.map Module.content = found.map Module.content

theorem Shuffles.find {f' : Files} (shuffles : f.Shuffles f') (dirs : List Path) (name : Value) :
    f'.find dirs name = f.find dirs name := by
  have first (candidates : List (Option Path)) :
      f'.firstFile candidates = f.firstFile candidates := by
    induction candidates with
    | nil => rfl
    | cons candidate rest ih =>
      cases candidate with
      | none => rfl
      | some p => rw [firstFile, firstFile, shuffles.isFile, ih]
  simp only [Files.find, first]

private theorem Shuffles.namedAt {f' : Files} (shuffles : f.Shuffles f') {file : String × Nat}
    {found : List Module} (read : f.namedAt file = .ok found) : ∃ found',
      f'.namedAt file = .ok found' ∧ found'.map Module.content = found.map Module.content := by
  obtain ⟨ms, atPath, same⟩ := Outcome.bind_eq_ok.1 read
  obtain rfl := Except.ok.inj same
  obtain ⟨ms', atPath', views⟩ := shuffles.modulesAt atPath
  refine ⟨_, by rw [Files.namedAt, atPath']; rfl, ?_⟩
  simpa [Module.content_inReading, Function.comp_def] using
    congrArg (List.map fun c => (c.1.inReading (.named file.1 file.2),
      c.2.map (Value.inReading (.named file.1 file.2)))) views

private theorem Shuffles.named_eq_ok {f' : Files} (shuffles : f.Shuffles f')
    (read : f.named paths = .ok named) : ∃ named', f'.named paths = .ok named' ∧
      named'.map Module.content = named.map Module.content := by
  obtain ⟨lists, each, same⟩ := Outcome.bind_eq_ok.1 read
  obtain rfl := Except.ok.inj same
  have related := Outcome.mapM_eq_ok.1 each
  have shuffled : ∃ lists', (Loaded.turns [] paths).mapM f'.namedAt = .ok lists' ∧
      lists'.flatten.map Module.content = lists.flatten.map Module.content := by
    clear each read same
    generalize Loaded.turns [] paths = files at related
    induction related with
    | nil => exact ⟨[], rfl, rfl⟩
    | cons given _ ih =>
      obtain ⟨lists', each', views⟩ := ih
      obtain ⟨found', given', like⟩ := shuffles.namedAt given
      exact ⟨found' :: lists', by simp [List.mapM_cons, given', each'], by simp [like, views]⟩
  obtain ⟨lists', each', views⟩ := shuffled
  exact ⟨lists'.flatten, by simp [Files.named, each'], views⟩

theorem Shuffles.alike {f' : Files} (shuffles : f.Shuffles f') {named' : List Module}
    (views : named'.map Module.content = named.map Module.content) :
    Alike Module.content f f' dirs named named' where
  keeps {m m'} like := by
    have imports : (m'.imports : Multiset Value) = m.imports := congrArg Prod.snd like
    refine ⟨congrArg (fun c => c.1.name) like, fun k => ?_⟩
    rw [← Multiset.mem_coe, imports, Multiset.mem_coe]
  inReading r like := by rw [Module.content_inReading, Module.content_inReading, like]
  names := by
    have names := congrArg (List.map fun c => c.1.name) views
    simp only [List.map_map, Function.comp_def, Module.content] at names
    exact ⟨names ▸ List.Subset.refl _, names ▸ List.Subset.refl _⟩
  last? n := by
    have each (ms : List Module) : (Module.last? ms n).map Module.content =
        (ms.map Module.content).reverse.find? fun c => c.1.name.same n := by
      rw [← List.map_reverse, List.find?_map]
      rfl
    rw [each, each, views]
  find n := shuffles.find _ n
  modulesAt := shuffles.modulesAt

/-- What stands before a path matters only in how often the path is there. -/
private theorem turns_congr {before before' : List String} (perm : before'.Perm before)
    (paths : List String) : Loaded.turns before' paths = Loaded.turns before paths := by
  induction paths generalizing before before' with
  | nil => rfl
  | cons path rest ih => rw [Loaded.turns, Loaded.turns, perm.count_eq, ih (perm.cons path)]

private theorem turns_perm {before paths' : List String} (perm : paths'.Perm paths) :
    (Loaded.turns before paths').Perm (Loaded.turns before paths) := by
  induction perm generalizing before with
  | nil => exact .nil
  | cons path _ ih => exact (ih).cons _
  | swap a b rest =>
    have others := turns_congr (.swap a b before) rest
    simp only [Loaded.turns, others]
    by_cases same : a = b
    · rw [same]
    · rw [List.count_cons_of_ne (Ne.symm same), List.count_cons_of_ne same]
      exact .swap ..
  | trans _ _ ih ih' => exact ih.trans ih'

private theorem named_perm {paths' : List String} (perm : paths'.Perm paths)
    (read : f.named paths = .ok named) :
    ∃ named', f.named paths' = .ok named' ∧ named'.Perm named := by
  obtain ⟨lists, each, same⟩ := Outcome.bind_eq_ok.1 read
  obtain rfl := Except.ok.inj same
  obtain ⟨lists', each', perm'⟩ :=
    List.perm_comp_forall₂ (turns_perm perm) (Outcome.mapM_eq_ok.1 each)
  exact ⟨lists'.flatten, by simp [Files.named, Outcome.mapM_eq_ok.2 each'], perm'.flatten⟩

private theorem alike_of_perm {named' : List Module} (apart : Module.Apart named)
    (perm : named'.Perm named) :
    Alike id f f dirs named named' where
  keeps {m m'} like := by simp [show m' = m from like]
  inReading {m m'} r like := by rw [show m' = m from like]
  names := ⟨(perm.map _).subset, (perm.map _).symm.subset⟩
  last? n := by
    rw [Option.map_id, id, id, Module.last?_perm apart perm]
  find _ := rfl
  modulesAt {_ found} read := ⟨found, read, rfl⟩

/-- Texts that contain the names of the named modules and, with a name, what the module it stands
for imports, contain all reached names. Files found for them need to be looked at only. -/
theorem tidy_of_texts {names : List String} (isNamed : ∀ m ∈ named, m.IsNamed)
    (roots : ∀ m ∈ named, m.name ∈ names.map .text)
    (edges : ∀ n ∈ names.map .text, ∀ m, f.define dirs named n = .ok (some m) →
      m.imports ⊆ names.map .text)
    (found : ∀ n ∈ names.map .text, Module.last? named n = none →
      ∀ place, f.find (dirs.map .ofString) n = .ok (some place) →
        ∃ m, f.modulesAt place = .ok [m] ∧ m.name.same n) :
    f.Tidy dirs named ∧ ∀ n, f.Reaches dirs named n → n ∈ names.map .text := by
  have reaches {n : Value} (reached : f.Reaches dirs named n) : n ∈ names.map .text := by
    induction reached with
    | named member => exact roots _ member
    | imported _ defined imported member => exact edges _ member _ defined imported
  refine ⟨⟨isNamed, fun reached unnamed located => found _ (reaches reached) unnamed _ located,
    fun reached defined imported => ?_⟩, fun n => reaches⟩
  obtain ⟨s, _, rfl⟩ := List.mem_map.1 (edges _ (reaches reached) _ defined imported)
  rfl

/-- A load gives the closure of the named modules under imports. Where each file found for a
reached name holds the one module looked for, it succeeds exactly if all reached names stand for
modules, and then its modules are these, with the standard modules under all other names. If it
fails, some reached name stands for nothing and is reported, or its search breaks down. The order
of imports plays no part, and where no two named modules have one name neither does that of the
named files. -/
theorem load_gives_closure (f : Files) (paths dirs : List String) (named : List Module)
    (read : f.named paths = .ok named) (tidy : f.Tidy dirs named) :
    ((∃ l, (f.load paths dirs).outcome = .ok l) ↔
        ∀ n, f.Reaches dirs named n → ∃ m, f.define dirs named n = .ok (some m)) ∧
      (∀ l, (f.load paths dirs).outcome = .ok l → f.IsClosure dirs named l.modules) ∧
      (∀ fault, (f.load paths dirs).outcome = .error fault → ∃ n, f.Reaches dirs named n ∧
        (f.define dirs named n = .ok none ∧
            fault = .problem (.importNotFound n (dirs.map fun dir => (Path.ofString dir).display)) ∨
          f.define dirs named n = .error fault ∧ f.SearchBreaks dirs n fault)) ∧
      (∀ f', f.Shuffles f' →
        SameModules Module.content (f.load paths dirs) (f'.load paths dirs)) ∧
      (Module.Apart named → ∀ paths', paths'.Perm paths →
        SameModules id (f.load paths dirs) (f.load paths' dirs)) := by
  refine ⟨load_succeeds_iff read tidy, fun l => isClosure_of_load read tidy,
    fun fault => load_fails read tidy, fun f' shuffles => ?_, fun apart paths' perm => ?_⟩
  · obtain ⟨named', read', views⟩ := shuffles.named_eq_ok read
    exact (shuffles.alike views).sameModules read read' tidy
  · obtain ⟨named', read', perm'⟩ := named_perm perm read
    exact (alike_of_perm apart perm').sameModules read read' tidy

namespace CircularImports

/-- A module that imports `a` and a standard module, and the file for `a`, which imports it. -/
def files : Files where
  current := []
  entries := [
    (["m.json"], .file
      "\x7b\"name\": \"m\", \"imports\": [\"a\", \"common\"], \"decls\": \x7b\x7d\x7d".toUTF8),
    (["lib"], .directory),
    (["lib", "a.json"], .file
      "\x7b\"name\": \"a\", \"imports\": [\"m\"], \"decls\": \x7b\x7d\x7d".toUTF8)]

theorem exists_named : ∃ named, files.named ["m.json"] = .ok named ∧ files.Tidy ["lib"] named ∧
    ∀ n, files.Reaches ["lib"] named n → ∃ m, files.define ["lib"] named n = .ok (some m) := by
  have first : (files.named ["m.json"]).toOption.any (isOnly "m" ["a", "common"]) := by
    decide +kernel
  have second : (files.find [.ofString "lib"] (.text "a")).toOption =
      some (some ⟨"", ["lib", "a.json"]⟩) := by decide +kernel
  have third : (files.modulesAt ⟨"", ["lib", "a.json"]⟩).toOption.any (isOnly "a" ["m"]) := by
    decide +kernel
  have fourth : (files.find [.ofString "lib"] (.text "common")).toOption = some none := by
    decide +kernel
  obtain ⟨named, read, only⟩ := Outcome.any_toOption.1 first
  obtain ⟨m, rfl, name, imports⟩ := of_isOnly only
  have located := Outcome.toOption_eq_some.1 second
  obtain ⟨ms, readA, only⟩ := Outcome.any_toOption.1 third
  obtain ⟨a, rfl, nameA, importsA⟩ := of_isOnly only
  have nowhere := Outcome.toOption_eq_some.1 fourth
  have defineM : files.define ["lib"] [m] (.text "m") = .ok (some m) :=
    Library.define_of_last? (by simp [Module.last?, name])
  have defineA : files.define ["lib"] [m] (.text "a") =
      .ok (some (a.inReading (.found ⟨"", ["lib", "a.json"]⟩ 0))) := by
    have unnamed : Module.last? [m] (.text "a") = none := by simp [Module.last?, name]
    simp [define, Library.define, Library.ofFiles, Files.search, unnamed, located, readA, nameA]
  have defineCommon : files.define ["lib"] [m] (.text "common") = .ok (some Standard.common) := by
    have unnamed : Module.last? [m] (.text "common") = none := by simp [Module.last?, name]
    have standard : Entries.find? Standard.modules (.text "common") = some Standard.common := rfl
    simp [define, Library.define, Library.ofFiles, Files.search, unnamed, nowhere, standard]
  obtain ⟨tidy, reaches⟩ : files.Tidy ["lib"] [m] ∧
      ∀ n, files.Reaches ["lib"] [m] n → n ∈ ["m", "a", "common"].map .text := by
    refine tidy_of_texts (by simpa using Module.isNamed_of_text name) (by simp [name]) ?_ ?_
    · simp [defineM, defineA, defineCommon, imports, importsA, Standard.common, Standard.moduleOf]
    · simp [Module.last?, name, located, readA, nameA, nowhere]
  refine ⟨[m], read, tidy, fun n reached => ?_⟩
  have among := reaches n reached
  simp only [List.map_cons, List.map_nil, List.mem_cons, List.not_mem_nil, or_false] at among
  obtain rfl | rfl | rfl := among
  · exact ⟨m, defineM⟩
  · exact ⟨_, defineA⟩
  · exact ⟨_, defineCommon⟩

end CircularImports

theorem circle_gives_closure : ∃ named l, CircularImports.files.named ["m.json"] = .ok named ∧
    (CircularImports.files.load ["m.json"] ["lib"]).outcome = .ok l ∧
      CircularImports.files.IsClosure ["lib"] named l.modules := by
  obtain ⟨named, read, tidy, defined⟩ := CircularImports.exists_named
  obtain ⟨succeeds, closed, -⟩ := load_gives_closure _ _ _ named read tidy
  obtain ⟨l, loaded⟩ := succeeds.2 defined
  exact ⟨named, l, read, loaded, closed l loaded⟩

end Files

/-- A character that does not occur separates nothing. -/
theorem Text.split_of_not_mem {separator : Char} {cs : List Char} (absent : separator ∉ cs) :
    Text.split separator cs = [cs] := by
  induction cs with
  | nil => rfl
  | cons c rest ih =>
    rw [List.mem_cons, not_or] at absent
    rw [Text.split, if_neg (Ne.symm absent.1), ih absent.2]

/-- A text has a byte for each character at least. -/
theorem length_le_utf8ByteSize (cs : List Char) : cs.length ≤ (String.ofList cs).utf8ByteSize := by
  induction cs with
  | nil => exact Nat.zero_le _
  | cons c rest ih =>
    have pos := c.utf8Size_pos
    rw [String.ofList_cons, String.utf8ByteSize_append, String.utf8ByteSize_singleton,
      List.length_cons]
    omega

namespace Files

variable {f : Files}

/-- A path whose first name is too long leads nowhere. -/
theorem locate_of_tooLong {p : Path} {name : String} {rest : List String}
    (parts : p.parts = name :: rest) (up : name ≠ "..") (long : mostBytes < name.utf8ByteSize) :
    f.locate p = .tooLong := by
  rw [locate, parts, follow, if_neg up, if_pos long, ite_self]

/-- A search in a directory whose name is too long breaks down. -/
theorem find_of_tooLong {directory : String} (noSlash : '/' ∉ directory.toList)
    (noNull : ∀ c ∈ directory.toList, c.toNat ≠ 0) (long : mostBytes < directory.utf8ByteSize) :
    f.find [.ofString directory] (.text "b") = .error (.mishap .refused) := by
  have apart {s : String} (short : s.utf8ByteSize ≤ mostBytes) : directory ≠ s := by
    rintro rfl
    omega
  have root : Path.rootOf directory.toList = "" := by
    match letters : directory.toList with
    | [] => rfl
    | c :: rest =>
      rw [letters, List.mem_cons, not_or] at noSlash
      rw [Path.rootOf] <;> simp [Ne.symm noSlash.1]
  have step : Path.isStep directory := by
    simp [Path.isStep, apart (s := "") (by decide), apart (s := ".") (by decide)]
  have path : Path.ofString directory = ⟨"", [directory]⟩ := by
    rw [Path.ofString, root, Text.splitText, Text.split_of_not_mem noSlash]
    simp [step]
  have isFile : f.isFile ⟨"", [directory, "b.json"]⟩ = .error (.mishap .refused) := by
    have noName : Path.hasNull ⟨"", [directory, "b.json"]⟩ = false := by
      have plain : "b.json".toList.any (·.toNat == 0) = false := by decide
      simpa [Path.hasNull, plain] using noNull
    rw [Files.isFile, noName, locate_of_tooLong rfl (apart (by decide)) long]
    rfl
  have parts : Text.splitText '.' "b" = ["b"] := by decide +kernel
  have inner : Path.ofString "b" = ⟨"", ["b"]⟩ := by decide +kernel
  have ending : (Path.splitSuffix "b").1 ++ ".json" = "b.json" := by decide +kernel
  rw [find, path]
  simp [candidates, moduleSuffixes, parts, inner, Path.join, Path.withSuffix?, Path.name, ending,
    firstFile, isFile]

namespace LongDirectory

/-- The name of a directory with 256 letters. -/
def directory : String := String.ofList (List.replicate 256 'a')

/-- A module that imports another. -/
def files : Files where
  current := []
  entries := [(["m.json"], .file
    "\x7b\"name\": \"m\", \"imports\": [\"b\"], \"decls\": \x7b\x7d\x7d".toUTF8)]

private theorem find_breaks :
    files.find [.ofString directory] (.text "b") = .error (.mishap .refused) := by
  have letters : directory.toList = List.replicate 256 'a' := String.toList_ofList
  refine find_of_tooLong ?_ ?_ ?_
  · rw [letters]
    exact fun member => absurd (List.eq_of_mem_replicate member) (by decide)
  · rw [letters]
    intro c member
    rw [List.eq_of_mem_replicate member]
    decide
  · have size := length_le_utf8ByteSize directory.toList
    rw [String.ofList_toList, letters, List.length_replicate] at size
    exact size

/-- The name that the search breaks down at is reached, and no reached name is known to stand for
nothing. -/
theorem exists_named : ∃ named, files.named ["m.json"] = .ok named ∧
    files.Tidy [directory] named ∧
      (∀ n, files.Reaches [directory] named n → ∃ s, n = .text s ∧ "" ∉ Text.splitText '.' s) ∧
      (∀ n, files.Reaches [directory] named n → files.define [directory] named n ≠ .ok none) ∧
      ∃ n, files.Reaches [directory] named n ∧
        ∀ m, files.define [directory] named n ≠ .ok (some m) := by
  have first : (files.named ["m.json"]).toOption.any (isOnly "m" ["b"]) := by decide +kernel
  obtain ⟨named, read, only⟩ := Outcome.any_toOption.1 first
  obtain ⟨m, rfl, name, imports⟩ := of_isOnly only
  have defineM : files.define [directory] [m] (.text "m") = .ok (some m) :=
    Library.define_of_last? (by simp [Module.last?, name])
  have defineB : files.define [directory] [m] (.text "b") = .error (.mishap .refused) := by
    have unnamed : Module.last? [m] (.text "b") = none := by simp [Module.last?, name]
    simp [define, Library.define, Library.ofFiles, Files.search, unnamed, find_breaks]
  obtain ⟨tidy, reaches⟩ : files.Tidy [directory] [m] ∧
      ∀ n, files.Reaches [directory] [m] n → n ∈ ["m", "b"].map .text := by
    refine tidy_of_texts (by simpa using Module.isNamed_of_text name) (by simp [name]) ?_ ?_
    · simp [defineM, defineB, imports]
    · simp [Module.last?, name, find_breaks]
  have cases_on {p : Value → Prop} (first : p (.text "m")) (second : p (.text "b")) (n : Value)
      (reached : files.Reaches [directory] [m] n) : p n := by
    have among := reaches n reached
    simp only [List.map_cons, List.map_nil, List.mem_cons, List.not_mem_nil, or_false] at among
    obtain rfl | rfl := among
    · exact first
    · exact second
  have reachedM : files.Reaches [directory] [m] (.text "m") := name ▸ .named List.mem_cons_self
  refine ⟨[m], read, tidy, cases_on ⟨"m", rfl, by decide +kernel⟩ ⟨"b", rfl, by decide +kernel⟩,
    cases_on (by simp [defineM]) (by simp [defineB]), .text "b",
    .imported reachedM defineM (by simp [imports]), by simp [defineB]⟩

end LongDirectory

/-- A load can fail without a report on an import that stands for nothing. -/
theorem not_always_reported : ¬ ∀ (f : Files) (paths dirs : List String) (named : List Module),
    f.named paths = .ok named → f.Tidy dirs named →
      (∀ n, f.Reaches dirs named n → ∃ s, n = .text s ∧ "" ∉ Text.splitText '.' s) →
        ∀ fault, (f.load paths dirs).outcome = .error fault → ∃ n, f.Reaches dirs named n ∧
          fault = .problem
            (.importNotFound n (dirs.map fun dir => (Path.ofString dir).display)) := by
  intro reported
  obtain ⟨named, read, tidy, dotted, never, n, reached, undefined⟩ := LongDirectory.exists_named
  match outcome : (LongDirectory.files.load ["m.json"] [LongDirectory.directory]).outcome with
  | .ok l =>
    obtain ⟨m, defined⟩ := (load_succeeds_iff read tidy).1 ⟨l, outcome⟩ n reached
    exact undefined m defined
  | .error fault =>
    obtain ⟨_, _, rfl⟩ := reported _ _ _ named read tidy dotted fault outcome
    obtain ⟨k, reached, ⟨nothing, _⟩ | ⟨_, _, _, _, _, _, ⟨_, breakdown⟩ | ⟨_, breakdown⟩⟩⟩ :=
      load_fails read tidy outcome
    · exact never k reached nothing
    · cases breakdown
    · cases breakdown

end Files

end AdlTables
