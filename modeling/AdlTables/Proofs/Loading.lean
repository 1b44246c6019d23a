import AdlTables.Proofs.Gathering

/-! # What a load gives

A load reads the named files, gathers what their modules import, and adds the standard modules that
nothing has replaced. What it gives is closed under imports but for the names that went astray: the
file found for such a name holds no module so called, and no other file brought one in.
-/

namespace AdlTables

/-- The modules in the files at some paths, one file after another. -/
def Files.named (f : Files) (paths : List String) : Except Fault (List Module) := do
  return (← (Loaded.turns [] paths).mapM f.namedAt).flatten

/-- A module of named files is what a reading makes of one in a file. -/
theorem Files.exists_of_named {f : Files} {paths : List String} {named : List Module} {m : Module}
    (read : f.named paths = .ok named) (isNamed : m ∈ named) :
    ∃ file ∈ Loaded.turns [] paths, ∃ found, f.modulesAt (.ofString file.1) = .ok found ∧
      ∃ x ∈ found, x.inReading (.named file.1 file.2) = m := by
  obtain ⟨lists, steps, same⟩ := Outcome.bind_eq_ok.1 read
  cases same
  obtain ⟨ms, among, inFile⟩ := List.mem_flatten.1 isNamed
  obtain ⟨file, isFile, atPath⟩ := (Outcome.mem_of_mapM steps).1 among
  obtain ⟨found, read, same⟩ := Outcome.bind_eq_ok.1 atPath
  cases same
  exact ⟨file, isFile, found, read, List.mem_map.1 inFile⟩

namespace Loaded

variable {f : Files} {path : String} {l l' : Loaded} {m : Module}

/-- The modules of a load with one in place of that of the same name. -/
def take (l : Loaded) (m : Module) : Loaded :=
  ⟨Entries.put l.modules m.name m,
    if !l.requested.any m.name.same then l.requested ++ [m.name] else l.requested⟩

/-- The modules of a load that only the named files make. -/
def ofNamed (named : List Module) : Loaded :=
  named.foldl take ⟨[], []⟩

theorem add_eq_ok : (add path l m).outcome = .ok l' ↔ m.IsNamed ∧ l' = l.take m := by
  rw [add, Module.IsNamed, Value.say]
  cases sayable : m.name.isSayable with
  | false => simp [Fault.breakDown]
  | true =>
    cases isKey : m.name.key? with
    | none => simp [Journaled.fail]
    | some k => simpa [take] using eq_comm

theorem foldlM_add_eq_ok {ms : List Module} : (ms.foldlM (add path) l).outcome = .ok l' ↔
    (∀ m ∈ ms, m.IsNamed) ∧ l' = ms.foldl take l := by
  induction ms generalizing l with
  | nil => simpa using eq_comm
  | cons m rest ih =>
    simp only [List.foldlM_cons, Journaled.outcome_bind, Outcome.bind_eq_ok, add_eq_ok, ih,
      List.forall_mem_cons, List.foldl_cons]
    constructor
    · rintro ⟨_, ⟨named, rfl⟩, others, rfl⟩
      exact ⟨⟨named, others⟩, rfl⟩
    · rintro ⟨⟨named, others⟩, rfl⟩
      exact ⟨_, ⟨named, rfl⟩, others, rfl⟩

private theorem foldlM_addFile_eq_ok {files : List (String × Nat)} :
    (files.foldlM (addFile f) l).outcome = .ok l' ↔ ∃ lists, files.mapM f.namedAt = .ok lists ∧
      (∀ m ∈ lists.flatten, m.IsNamed) ∧ l' = lists.flatten.foldl take l := by
  induction files generalizing l with
  | nil => simpa using eq_comm
  | cons file rest ih =>
    simp only [List.foldlM_cons, Journaled.outcome_bind, Outcome.bind_eq_ok, ih, addFile,
      Journaled.outcome_monadLift, foldlM_add_eq_ok, List.mapM_cons, Outcome.pure_eq_ok,
      Except.ok.injEq]
    constructor
    · rintro ⟨_, ⟨ms, first, named, rfl⟩, lists, later, others, rfl⟩
      refine ⟨_, ⟨ms, first, lists, later, rfl⟩, ?_, by simp⟩
      simpa [or_imp, forall_and] using ⟨named, by simpa using others⟩
    · rintro ⟨_, ⟨ms, first, lists, later, rfl⟩, named, rfl⟩
      simp only [List.flatten_cons, List.mem_append, or_imp, forall_and] at named
      exact ⟨_, ⟨ms, first, named.1, rfl⟩, lists, later, named.2, by simp⟩

/-- The named files are taken up if all can be read and all of their modules are named. -/
theorem foldlM_turns_eq_ok {paths : List String} :
    ((turns [] paths).foldlM (addFile f) l).outcome = .ok l' ↔ ∃ named,
      f.named paths = .ok named ∧ (∀ m ∈ named, m.IsNamed) ∧ l' = named.foldl take l := by
  simp only [foldlM_addFile_eq_ok, Files.named, Outcome.bind_eq_ok, Outcome.pure_eq_ok,
    Except.ok.injEq]
  constructor
  · rintro ⟨lists, read, named, rfl⟩
    exact ⟨_, ⟨lists, read, rfl⟩, named, rfl⟩
  · rintro ⟨_, ⟨lists, read, rfl⟩, named, rfl⟩
    exact ⟨lists, read, named, rfl⟩

private theorem modules_ofNamed (named : List Module) :
    (ofNamed named).modules = Entries.ofList (named.map fun m => (m.name, m)) := by
  have each : ∀ l : Loaded, (named.foldl take l).modules =
      (named.map fun m => (m.name, m)).foldl (fun done e => Entries.put done e.1 e.2)
        l.modules := by
    induction named with
    | nil => exact fun _ => rfl
    | cons m rest ih => exact fun l => ih (l.take m)
  exact each ⟨[], []⟩

section

variable {modules : List (Value × Module)} {name : Value}

private def fill (modules more : List (Value × Module)) : List (Value × Module) :=
  more.foldl (fun done (name, m) =>
    if Entries.has done name then done else Entries.put done name m) modules

private theorem find?_fill {more : List (Value × Module)} : Entries.find? (fill modules more) name =
    (Entries.find? modules name).or (Entries.find? more name) := by
  induction more generalizing modules with
  | nil => simp [fill, Entries.find?]
  | cons entry rest ih =>
    obtain ⟨key, m⟩ := entry
    have step : Entries.find? ((key, m) :: rest) name =
        if key.same name then some m else Entries.find? rest name := by
      cases same : key.same name <;> simp [Entries.find?, same]
    rw [fill, List.foldl_cons, ← fill, ih, step]
    cases known : Entries.has modules key with
    | true =>
      cases same : key.same name with
      | false => simp [known]
      | true =>
        have present := (Entries.has_congr same).symm.trans known
        rw [← Entries.find?_isSome] at present
        obtain ⟨m', found⟩ := Option.isSome_iff_exists.1 present
        simp [known, found]
    | false =>
      simp only [known, Bool.false_eq_true, ↓reduceIte, Entries.find?_put]
      cases same : key.same name with
      | false => simp
      | true => simp [Entries.find?_of_not_has (Entries.has_congr same ▸ known)]

private theorem fill_eq_append (modules more : List (Value × Module)) :
    ∃ added, added.Sublist more ∧ fill modules more = modules ++ added ∧
      (Entries.Distinct modules → Entries.Distinct (fill modules more)) := by
  induction more generalizing modules with
  | nil => exact ⟨[], .refl [], by simp [fill], id⟩
  | cons entry rest ih =>
    obtain ⟨key, m⟩ := entry
    rw [fill, List.foldl_cons, ← fill]
    cases known : Entries.has modules key with
    | true =>
      obtain ⟨added, sub, eq, distinct⟩ := ih modules
      simp only [known, ↓reduceIte]
      exact ⟨added, sub.cons _, eq, distinct⟩
    | false =>
      obtain ⟨added, sub, eq, distinct⟩ := ih (modules ++ [(key, m)])
      simp only [known, Bool.false_eq_true, ↓reduceIte, Entries.put_of_absent known]
      exact ⟨(key, m) :: added, sub.cons_cons _, by simp [eq], fun before =>
        distinct (Entries.distinct_append_singleton before known)⟩

/-- A standard module is found where no other is loaded. -/
theorem find?_withStandard : Entries.find? (withStandard modules) name =
    (Entries.find? modules name).or (Entries.find? Standard.modules name) :=
  find?_fill

private theorem has_withStandard : Entries.has (withStandard modules) name =
    (Entries.has modules name || Entries.has Standard.modules name) := by
  simp only [← Entries.find?_isSome, find?_withStandard, Option.isSome_or]

theorem distinct_withStandard (distinct : Entries.Distinct modules) :
    Entries.Distinct (withStandard modules) := by
  obtain ⟨_, _, _, kept⟩ := fill_eq_append modules Standard.modules
  exact kept distinct

private theorem withStandard_eq_append (modules : List (Value × Module)) :
    ∃ added, added.Sublist Standard.modules ∧ withStandard modules = modules ++ added := by
  obtain ⟨added, sub, eq, _⟩ := fill_eq_append modules Standard.modules
  exact ⟨added, sub, eq⟩

theorem mem_withStandard {entry : Value × Module} (member : entry ∈ withStandard modules) :
    entry ∈ modules ∨ entry ∈ Standard.modules := by
  obtain ⟨added, sub, eq⟩ := withStandard_eq_append modules
  rw [eq] at member
  exact (List.mem_append.1 member).imp_right (sub.subset ·)

end

end Loaded

namespace Files

variable {f : Files} {paths dirs : List String} {l : Loaded} {named : List Module}

/-- A load of named modules is a gathering from them. -/
theorem outcome_load (dirs : List String) (read : f.named paths = .ok named)
    (names : ∀ m ∈ named, m.IsNamed) :
    (f.load paths dirs).outcome =
      ((Gathering.finish (.ofFiles f (dirs.map .ofString)) (.start named)).outcome.map
        fun modules => ⟨Loaded.withStandard modules, (Loaded.ofNamed named).requested⟩).mapError
          Fault.voiced := by
  have taken : ((Loaded.turns [] paths).foldlM (Loaded.addFile f) ⟨[], []⟩).outcome =
      .ok (Loaded.ofNamed named) :=
    Loaded.foldlM_turns_eq_ok.2 ⟨named, read, names, rfl⟩
  simp only [load, Journaled.voiced, Journaled.outcome_bind, taken, Outcome.ok_bind,
    Journaled.outcome_note, Journaled.outcome_pure, Loaded.modules_ofNamed, Gathering.start]
  congr 1

/-- A load of no files gives the standard modules. -/
theorem outcome_load_nil (f : Files) (dirs : List String) :
    (f.load [] dirs).outcome = .ok ⟨Loaded.withStandard [], []⟩ := by
  rw [outcome_load dirs (show f.named [] = .ok [] from rfl) (by simp),
    Gathering.outcome_finish_nil rfl]
  rfl

/-- A load that succeeds has read all named files. -/
theorem named_of_load (loaded : (f.load paths dirs).outcome = .ok l) :
    ∃ named, f.named paths = .ok named ∧ ∀ m ∈ named, m.IsNamed := by
  rw [load, Journaled.voiced, Journaled.outcome_bind] at loaded
  cases taken : ((Loaded.turns [] paths).foldlM (Loaded.addFile f) ⟨[], []⟩).outcome with
  | error fault => simp [taken, Except.mapError] at loaded
  | ok l' =>
    obtain ⟨named, read, names, _⟩ := Loaded.foldlM_turns_eq_ok.1 taken
    exact ⟨named, read, names⟩

/-- What a load gives, in terms of what it gathers. -/
theorem load_eq_ok (loaded : (f.load paths dirs).outcome = .ok l) :
    ∃ named modules, f.named paths = .ok named ∧ (∀ m ∈ named, m.IsNamed) ∧
      (Gathering.finish (.ofFiles f (dirs.map .ofString)) (.start named)).outcome = .ok modules ∧
        l.modules = Loaded.withStandard modules := by
  obtain ⟨named, read, names⟩ := named_of_load loaded
  rw [outcome_load dirs read names] at loaded
  cases finished :
      (Gathering.finish (.ofFiles f (dirs.map .ofString)) (.start named)).outcome with
  | error fault => simp [finished, Except.map, Except.mapError] at loaded
  | ok modules =>
    rw [finished] at loaded
    cases loaded
    exact ⟨named, modules, read, names, finished, rfl⟩

/-- The file that search directories hold for a name holds no module so called. -/
def Misfiles (f : Files) (dirs : List String) (name : Value) : Prop :=
  ∃ place found, f.find (dirs.map .ofString) name = .ok (some place) ∧
    f.modulesAt place = .ok found ∧ ∀ m ∈ found, m.name.same name = false

private theorem misfiles_of_strays {name : Value}
    (strays : (Library.ofFiles f (dirs.map .ofString)).Strays name) : f.Misfiles dirs name := by
  obtain ⟨place, found, searched, none⟩ := strays
  obtain ⟨located, read⟩ := search_eq_ok.1 searched
  exact ⟨place, found, located, read, none⟩

variable {entry : Value × Module} {n : Value}

/-- Every import of a module that is loaded is loaded, unless the file found for its name holds no
module so called. -/
theorem import_loaded_or_misfiled (loaded : (f.load paths dirs).outcome = .ok l)
    (member : entry ∈ l.modules) (imported : n ∈ entry.2.imports) :
    Entries.has l.modules n ∨ f.Misfiles dirs n := by
  obtain ⟨named, modules, -, -, finished, eq⟩ := load_eq_ok loaded
  rw [eq] at member ⊢
  obtain gathered | standard := Loaded.mem_withStandard member
  · obtain present | strays :=
      (Gathering.covers_start _ named).finish finished gathered imported
    · exact .inl (by simp [Loaded.has_withStandard, show Entries.has modules n from present])
    · exact .inr (misfiles_of_strays strays)
  · rw [Standard.imports_eq_nil standard] at imported
    cases imported

/-- Whether modules are one with a name and imports that are the given texts. -/
def isOnly (name : String) (imports : List String) : List Module → Bool
  | [m] => m.name.text? == some name && m.imports.map Value.text? == imports.map some
  | _ => false

theorem of_isOnly {name : String} {imports : List String} {ms : List Module}
    (only : isOnly name imports ms) :
    ∃ m, ms = [m] ∧ m.name = .text name ∧ m.imports = imports.map .text := by
  match ms, only with
  | [m], only =>
    rw [isOnly, Bool.and_eq_true, beq_iff_eq, beq_iff_eq] at only
    exact ⟨m, rfl, Value.text?_eq_some.1 only.1, Value.map_text?_eq.1 only.2⟩

namespace StrayImport

/-- A module that imports `a`, and the file for `a`, which holds a module `b`. -/
def files : Files where
  current := []
  entries := [
    (["m.json"], .file
      "\x7b\"name\": \"m\", \"imports\": [\"a\"], \"decls\": \x7b\x7d\x7d".toUTF8),
    (["lib"], .directory),
    (["lib", "a.json"], .file "\x7b\"name\": \"b\", \"decls\": \x7b\x7d\x7d".toUTF8)]

theorem exists_load : ∃ l, (files.load ["m.json"] ["lib"]).outcome = .ok l ∧
    (∃ entry ∈ l.modules, .text "a" ∈ entry.2.imports) ∧
      Entries.has l.modules (.text "a") = false := by
  have first : (files.named ["m.json"]).toOption.any (isOnly "m" ["a"]) := by decide +kernel
  have second : (files.search [.ofString "lib"] (.text "a")).toOption.any
      fun found? => found?.any fun found => isOnly "b" [] found.2 := by decide +kernel
  obtain ⟨ms, read, only⟩ := Outcome.any_toOption.1 first
  obtain ⟨m, rfl, name, imports⟩ := of_isOnly only
  obtain ⟨found?, searched, only⟩ := Outcome.any_toOption.1 second
  obtain ⟨⟨place, ms⟩, rfl, only⟩ := (Option.any_eq_true _ _).1 only
  obtain ⟨m', rfl, name', imports'⟩ := of_isOnly only
  have start : Gathering.start [m] = ⟨[(.text "m", m)], [.text "a"], []⟩ := by
    simp [Gathering.start, Entries.ofList, Entries.put, Entries.values, name, imports]
  have round : Gathering.Round (.ofFiles files [.ofString "lib"])
      ⟨[(.text "m", m)], [.text "a"], []⟩
      ⟨[(.text "m", m), (.text "b", m'.inReading (.found place 0))], [], [place]⟩ := by
    have looked : (Gathering.look (.ofFiles files [.ofString "lib"])
        ⟨[(.text "m", m)], [], []⟩ (.text "a")).outcome = .ok _ :=
      Gathering.look_of_search rfl (by simp [Entries.has]) searched
        (Module.isNamed_of_text name') (by simp [Entries.has, name'])
    refine ⟨.text "a", [], rfl, looked.trans ?_⟩
    simp [Gathering.take, Gathering.reads, Gathering.reading, name', imports']
  have finished : (Gathering.finish (.ofFiles files [.ofString "lib"]) (.start [m])).outcome =
      .ok [(.text "m", m), (.text "b", m'.inReading (.found place 0))] := by
    rw [start]
    exact Gathering.EndsWith.outcome_finish ⟨1, _, .next .start round, .inl ⟨rfl, rfl⟩⟩
  have loaded := outcome_load ["lib"] read (by simpa using Module.isNamed_of_text name)
  rw [List.map_singleton, finished] at loaded
  refine ⟨_, loaded, ⟨(.text "m", m), ?_, by simp [imports]⟩, ?_⟩
  · obtain ⟨added, -, eq⟩ := Loaded.withStandard_eq_append
      [(.text "m", m), (.text "b", m'.inReading (.found place 0))]
    simp [eq]
  · have standard : Entries.has Standard.modules (.text "a") = false := by decide +kernel
    rw [Loaded.has_withStandard, standard, Bool.or_false]
    simp [Entries.has]

end StrayImport

/-- A load can succeed although an import of one of its modules is not loaded. -/
theorem not_closed_under_imports : ¬ ∀ (f : Files) (paths dirs : List String) (l : Loaded),
    (f.load paths dirs).outcome = .ok l →
      ∀ entry ∈ l.modules, ∀ n ∈ entry.2.imports, Entries.has l.modules n := by
  intro closed
  obtain ⟨l, loaded, ⟨entry, member, imported⟩, absent⟩ := StrayImport.exists_load
  exact absurd (closed _ _ _ l loaded entry member _ imported) (by simp [absent])

theorem import_misfiled : ∃ l entry, (StrayImport.files.load ["m.json"] ["lib"]).outcome = .ok l ∧
    entry ∈ l.modules ∧ .text "a" ∈ entry.2.imports ∧
      (Entries.has l.modules (.text "a") ∨ StrayImport.files.Misfiles ["lib"] (.text "a")) := by
  obtain ⟨l, loaded, ⟨entry, member, imported⟩, _⟩ := StrayImport.exists_load
  exact ⟨l, entry, loaded, member, imported, import_loaded_or_misfiled loaded member imported⟩

end Files

end AdlTables
