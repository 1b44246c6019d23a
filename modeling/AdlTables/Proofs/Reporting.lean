import AdlTables.Proofs.Breakdown
import AdlTables.Proofs.Identity
import AdlTables.Proofs.LoadClosure

/-! # What a load reports

A load gives the modules of its files, or it reports a problem, but for what breaks down in a file
that it reads or at an import that it looks for. A file may be no text, and what its modules say of
their imports and annotations is caught by nothing. Only an unsteady file can make a load endless.
-/

namespace AdlTables

namespace Document

/-- The value that the module in an entry is read from, which has the entry's key as its name unless
it has one of its own. -/
def moduleValue (key v : Value) : Value :=
  if lacksName v then match place? v with
    | none => withName key v
    | some place => v.changeAt place (withName key)
  else v

/-- Entries behind one, with the name that its value gets, wherever that is. -/
def further (key v : Value) (rest : List (Value × Value)) : List (Value × Value) :=
  if lacksName v then match place? v with
    | none => rest
    | some place => rest.map fun (k, w) => (k, w.changeAt place (withName key))
  else rest

/-- What breaks down where modules are read from entries in a document: one of them, or a name that
would have to be put into the document itself while its entries are run through. -/
inductive EntriesBreak (whole : Option Nat) : List (Value × Value) → Mishap → Prop
  | module {key v : Value} {rest : List (Value × Value)} {m : Mishap} :
    Module.Breaks (moduleValue key v) m → EntriesBreak whole ((key, v) :: rest) m
  | grows {key v : Value} {rest : List (Value × Value)} {place : Nat} :
    lacksName v → place? v = some place → whole = some place →
    EntriesBreak whole ((key, v) :: rest) .grows
  | later {key v : Value} {rest : List (Value × Value)} {m : Mishap} :
    EntriesBreak whole (further key v rest) m → EntriesBreak whole ((key, v) :: rest) m

/-- What breaks down where the modules of a document are read. -/
inductive Breaks (v : Value) : Mishap → Prop
  | single {entries : List (Value × Value)} {m : Mishap} : v.bare = .mapping entries →
    (Value.find? entries "decls").isSome → Module.Breaks v m → Breaks v m
  | several {entries : List (Value × Value)} {m : Mishap} : v.bare = .mapping entries →
    (Value.find? entries "decls").isSome = false → EntriesBreak (place? v) entries m → Breaks v m

variable {v : Value}

private theorem modulesOf_confined {whole : Option Nat} {entries : List (Value × Value)}
    {done : List Module} :
    Confined (EntriesBreak whole entries) (modulesOf whole done entries) := by
  -- a name that a mapping gets changes the entries behind it, so the induction is on their number
  induction size : entries.length generalizing entries done with
  | zero =>
    obtain rfl := List.length_eq_zero_iff.1 size
    rw [modulesOf]
    exact .ok _
  | succ n ih =>
    obtain ⟨⟨key, v⟩, rest, rfl⟩ := List.exists_cons_of_length_eq_add_one size
    have fewer : rest.length = n := Nat.succ.inj size
    have here : Confined (EntriesBreak whole ((key, v) :: rest))
        (Module.ofValue (moduleValue key v)) :=
      Module.ofValue_confined.mono fun _ => .module
    have behind {done : List Module} (fewer : (further key v rest).length = n) :
        Confined (EntriesBreak whole ((key, v) :: rest))
          (modulesOf whole done (further key v rest)) :=
      (ih fewer).mono fun _ => .later
    rw [modulesOf]
    split
    · rename_i lacks
      split
      · rename_i notShared
        simp only [moduleValue, further, lacks, notShared, ↓reduceIte] at here behind
        exact here.bind fun m _ => behind fewer
      · rename_i place isShared
        simp only [moduleValue, further, lacks, isShared, ↓reduceIte] at here behind
        refine here.bind fun m _ => ?_
        split
        · rename_i isWhole
          exact .breakDown (.grows lacks isShared isWhole)
        · exact behind (by simpa using fewer)
    · rename_i lacks
      simp only [moduleValue, further, lacks] at here behind
      exact here.bind fun m _ => behind fewer

private theorem modules?_confined : Confined (Breaks v) (modules? v) := by
  rw [modules?]
  split
  · rename_i entries isMapping
    split
    · rename_i single
      exact (Module.ofValue_confined.mono fun _ => .single isMapping single).bind fun _ _ => .ok _
    · rename_i several
      have several := Bool.not_eq_true _ ▸ several
      exact (modulesOf_confined.mono fun _ => .several isMapping several).bind fun _ _ => .ok _
  · exact .ok _

end Document

namespace Files

variable {f : Files} {p : Path} {paths dirs : List String} {n : Value} {m : Module}

/-- What breaks down where a file is read: its path holds a null, it is no text, the reader of its
format breaks down, or its modules do. -/
inductive BreaksAt (f : Files) (p : Path) : Mishap → Prop
  | path : p.hasNull → BreaksAt f p .badValue
  | bytes {content : ByteArray} : f.read p = .bytes content → String.fromUTF8? content = none →
    BreaksAt f p .notText
  | format {content : ByteArray} {s : String} {m : Mishap} : f.read p = .bytes content →
    Document.textOf content = .ok s →
    (if Document.isJson p then Json.read s else Yaml.read s) = .error (.mishap m) → BreaksAt f p m
  | modules {content : ByteArray} {v : Value} {m : Mishap} : f.read p = .bytes content →
    Document.ofContent (Document.isJson p) content = .ok v → Document.Breaks v m → BreaksAt f p m

private theorem modulesAt_confined : Confined (f.BreaksAt p) (f.modulesAt p) := by
  rw [modulesAt]
  split
  · exact .raise _
  · exact .raise _
  · rename_i m refused
    refine .breakDown ?_
    rw [read] at refused
    split at refused
    · cases refused
      exact .path ‹_›
    · split at refused <;> cases refused
  · rename_i content isRead
    split
    · exact .raise _
    · rename_i m failed
      refine .breakDown ?_
      rw [Document.ofContent] at failed
      cases decoded : Document.textOf content with
      | ok s =>
        rw [decoded, Outcome.ok_bind] at failed
        exact .format isRead decoded failed
      | error cause =>
        rw [decoded, Outcome.error_bind] at failed
        cases failed
        rw [Document.textOf] at decoded
        split at decoded
        · cases decoded
        · cases decoded
          exact .bytes isRead ‹_›
    · rename_i v isDocument
      have within : Confined (f.BreaksAt p) (Document.modules? v) :=
        Document.modules?_confined.mono fun _ => .modules isRead isDocument
      split
      · rename_i fault failed
        intro fault' same
        cases same
        exact within _ failed
      · exact .raise _
      · exact .ok _

/-- The files that a load may read: those that are named, and those found for what their modules
import. -/
inductive Reads (f : Files) (paths dirs : List String) : Path → Prop
  | named {path : String} : path ∈ paths → Reads f paths dirs (.ofString path)
  | imported {p place : Path} {ms : List Module} {m : Module} {n : Value} : Reads f paths dirs p →
    f.modulesAt p = .ok ms → m ∈ ms → n ∈ m.imports →
    f.find (dirs.map .ofString) n = .ok (some place) → Reads f paths dirs place

/-- A module is in a file that a load may read. -/
def Meets (f : Files) (paths dirs : List String) (m : Module) : Prop :=
  ∃ p ms, f.Reads paths dirs p ∧ f.modulesAt p = .ok ms ∧ m ∈ ms

private theorem find_inReading (dirs : List Path) (n : Value) (r : Reading) :
    f.find dirs (n.inReading r) = f.find dirs n := by
  cases n <;> simp [find, Value.inReading]

private theorem search_inReading (n : Value) (r : Reading) :
    f.search (dirs.map .ofString) (n.inReading r) = f.search (dirs.map .ofString) n := by
  rw [search, search, find_inReading]

theorem Meets.found {place : Path} {found : List Module} {m' : Module}
    (meets : f.Meets paths dirs m) (imported : n ∈ m.imports)
    (searched : f.search (dirs.map .ofString) n = .ok (some (place, found)))
    (member : m' ∈ found) : f.Meets paths dirs m' := by
  obtain ⟨located, read⟩ := search_eq_ok.1 searched
  obtain ⟨_, _, reads, atPath, among⟩ := meets
  exact ⟨place, found, .imported reads atPath among imported located, read, member⟩

/-- What breaks down in a load: the reading of a file, a report that would show a number that cannot
be written, a module under a name that is no key or cannot be written, or an import that is no key,
is no text to search for, breaks the search, or cannot be written. -/
inductive Breaks (f : Files) (paths dirs : List String) : Mishap → Prop
  | file {p : Path} {mishap : Mishap} : f.Reads paths dirs p → f.BreaksAt p mishap →
    Breaks f paths dirs mishap
  | report {p : Path} {q : Problem} : f.Reads paths dirs p →
    f.modulesAt p = .error (.problem q) → q.shown.all Value.isSayable = false →
    Breaks f paths dirs .badValue
  | name {m : Module} : f.Meets paths dirs m → m.name.key? = none → Breaks f paths dirs .wrongKind
  | unsayableName {m : Module} : f.Meets paths dirs m → m.name.isSayable = false →
    Breaks f paths dirs .badValue
  | importKey {m : Module} {n : Value} : f.Meets paths dirs m → n ∈ m.imports → n.key? = none →
    Breaks f paths dirs .wrongKind
  | importText {m : Module} {n : Value} {mishap : Mishap} : f.Meets paths dirs m →
    n ∈ m.imports → n.text? = none → dirs ≠ [] → mishap = .wrongKind ∨ mishap = .noMember →
    Breaks f paths dirs mishap
  | search {m : Module} {n : Value} {mishap : Mishap} : f.Meets paths dirs m → n ∈ m.imports →
    f.SearchBreaks dirs n (.mishap mishap) → Breaks f paths dirs mishap
  | unsayableImport {m : Module} {n : Value} : f.Meets paths dirs m → n ∈ m.imports →
    n.isSayable = false → Breaks f paths dirs .badValue

/-- A fault of a load is reported, or it is one of those that break it down. -/
def Explains (f : Files) (paths dirs : List String) (fault : Fault) : Prop :=
  fault.voiced.IsWithin (f.Breaks paths dirs)

variable {fault : Fault}

private theorem explains_of_modulesAt (reads : f.Reads paths dirs p)
    (failed : f.modulesAt p = .error fault) : f.Explains paths dirs fault := by
  have within := modulesAt_confined _ failed
  cases fault with
  | problem q =>
    rw [Explains, Fault.voiced]
    split
    · trivial
    · rename_i unsayable
      exact .report reads failed (Bool.not_eq_true _ ▸ unsayable)
  | mishap _ => exact .file reads within
  | exit _ | endless => exact within

private theorem key?_eq_none_of_inReading {r : Reading} (noKey : (n.inReading r).key?.isNone) :
    n.key? = none := by
  simpa [Value.key?_inReading] using noKey

private theorem explains_of_say {r : Reading} (meets : f.Meets paths dirs m)
    (failed : (m.inReading r).name.say = .error fault) : f.Explains paths dirs fault := by
  have within := Value.say_confined _ failed
  cases fault with
  | problem q =>
    rw [Value.say] at failed
    split at failed <;> cases failed
  | mishap _ =>
    obtain ⟨unsayable, rfl⟩ := within
    exact .unsayableName meets (by simpa using unsayable)
  | exit _ | endless => exact within

private theorem mem_of_turns {before : List String} {file : String × Nat}
    (member : file ∈ Loaded.turns before paths) : file.1 ∈ paths := by
  induction paths generalizing before with
  | nil => cases member
  | cons path rest ih =>
    obtain rfl | later := List.mem_cons.1 member
    · exact List.mem_cons_self
    · exact List.mem_cons_of_mem _ (ih later)

/-- What keeps the modules of a named file from being taken up is explained. -/
theorem explains_of_addFile {file : String × Nat} {l : Loaded} (isNamed : file.1 ∈ paths)
    (failed : (Loaded.addFile f l file).outcome = .error fault) : f.Explains paths dirs fault := by
  rw [Loaded.addFile, Journaled.outcome_bind, Journaled.outcome_monadLift, Files.namedAt] at failed
  rcases Outcome.bind_eq_error.1 failed with unread | ⟨ms, read, failed⟩
  · rcases Outcome.bind_eq_error.1 unread with unread | ⟨_, -, unread⟩
    · exact explains_of_modulesAt (.named isNamed) unread
    · cases unread
  obtain ⟨found, atPath, same⟩ := Outcome.bind_eq_ok.1 read
  cases same
  obtain ⟨m', member, l', failed⟩ := Journaled.exists_of_foldlM failed
  obtain ⟨m, isFound, rfl⟩ := List.mem_map.1 member
  have meets : f.Meets paths dirs m := ⟨_, found, .named isNamed, atPath, isFound⟩
  rw [Loaded.add, Journaled.outcome_bind, Journaled.outcome_monadLift] at failed
  rcases Outcome.bind_eq_error.1 failed with unsaid | ⟨_, -, failed⟩
  · exact explains_of_say meets unsaid
  rw [Journaled.outcome_bind, Journaled.outcome_note, Outcome.ok_bind] at failed
  split at failed
  · rename_i noKey
    cases failed
    exact .name meets (key?_eq_none_of_inReading noKey)
  · cases failed

/-- What keeps the search from a file for an import is explained. -/
theorem explains_of_find (meets : f.Meets paths dirs m) (imported : n ∈ m.imports)
    (failed : f.find (dirs.map .ofString) n = .error fault) : f.Explains paths dirs fault := by
  cases isText : n.text? with
  | some s =>
    obtain rfl := Value.text?_eq_some.1 isText
    have breaks := searchBreaks_of_find failed
    obtain ⟨_, _, -, _, _, ⟨_, rfl⟩ | ⟨_, rfl⟩⟩ := id breaks
    · exact .search meets imported breaks
    · exact .search meets imported breaks
  | none =>
    unfold find at failed
    split at failed
    · cases failed
    rename_i nonempty
    have nonempty : dirs ≠ [] := by simpa using nonempty
    split at failed
    · cases isText
    · cases failed
      exact .importText meets imported isText nonempty (.inl rfl)
    · cases failed
      exact .importText meets imported isText nonempty (.inr rfl)

/-- What keeps the modules in the file for an import from being read is explained. -/
theorem explains_of_search (meets : f.Meets paths dirs m) (imported : n ∈ m.imports)
    (failed : f.search (dirs.map .ofString) n = .error fault) : f.Explains paths dirs fault := by
  rw [search] at failed
  rcases Outcome.bind_eq_error.1 failed with unfound | ⟨place?, found, failed⟩
  · exact explains_of_find meets imported unfound
  cases place? with
  | none => cases failed
  | some place =>
    obtain ⟨p, ms, reads, read, member⟩ := meets
    rcases Outcome.bind_eq_error.1 failed with unread | ⟨_, -, failed⟩
    · exact explains_of_modulesAt (.imported reads read member imported found) unread
    · cases failed

/-- What keeps a module of the file for an import from being taken up is explained. -/
theorem explains_of_add {place : Path} {g : Gathering} {r : Reading} (meets : f.Meets paths dirs m)
    (failed : (Gathering.add place g (m.inReading r)).outcome = .error fault) :
    f.Explains paths dirs fault := by
  rw [Gathering.add] at failed
  split at failed
  · rename_i noKey
    cases failed
    exact .name meets (key?_eq_none_of_inReading noKey)
  split at failed
  · cases failed
  rw [Journaled.outcome_bind, Journaled.outcome_monadLift] at failed
  rcases Outcome.bind_eq_error.1 failed with unsaid | ⟨_, -, failed⟩
  · exact explains_of_say meets unsaid
  · cases failed

/-- What a look at an import fails with is explained. -/
theorem explains_of_look {g : Gathering} {r : Reading} (meets : f.Meets paths dirs m)
    (imported : n ∈ m.imports)
    (failed : (Gathering.look (.ofFiles f (dirs.map .ofString)) g (n.inReading r)).outcome =
      .error fault) : f.Explains paths dirs fault := by
  rw [Gathering.look] at failed
  split at failed
  · rename_i noKey
    cases failed
    exact .importKey meets imported (key?_eq_none_of_inReading noKey)
  split at failed
  · cases failed
  rw [Journaled.outcome_bind, Journaled.outcome_monadLift] at failed
  rcases Outcome.bind_eq_error.1 failed with unsearched | ⟨result, searched, failed⟩
  · exact explains_of_search meets imported ((search_inReading n r).symm.trans unsearched)
  split at failed
  · rename_i place found
    obtain ⟨_, member, _, failed⟩ := Journaled.exists_of_foldlM failed
    obtain ⟨_, isFound, rfl⟩ := List.mem_map.1 member
    exact explains_of_add
      (meets.found imported ((search_inReading n r).symm.trans searched) isFound) failed
  · split at failed
    · cases failed
    · cases failed
      rw [Explains, Fault.voiced]
      split
      · trivial
      · rename_i unsayable
        refine .unsayableImport meets imported ?_
        simpa [Problem.shown] using unsayable

/-- The names that are pending are imported, in some reading, by modules that the load meets, and
the files that were read are among those that it may read. -/
structure AwaitsImports (f : Files) (paths dirs : List String) (g : Gathering) : Prop where
  pending : ∀ n ∈ g.pending, ∃ m k r, f.Meets paths dirs m ∧ k ∈ m.imports ∧
    Value.inReading r k = n
  read : ∀ place ∈ g.read, f.Reads paths dirs place

private theorem awaitsImports_start {named : List Module} (read : f.named paths = .ok named) :
    f.AwaitsImports paths dirs (.start named) := by
  refine ⟨fun n waiting => ?_, nofun⟩
  obtain ⟨m, loaded, imported⟩ := List.mem_flatMap.1 (List.mem_reverse.1 waiting)
  have isNamed : m ∈ named := by
    have value := Entries.mem_values_ofList loaded
    simpa [Entries.values] using value
  obtain ⟨file, isFile, found, atPath, x, isFound, rfl⟩ := exists_of_named read isNamed
  obtain ⟨k, isImport, rfl⟩ := List.mem_map.1 imported
  exact ⟨x, k, _, ⟨_, found, .named (mem_of_turns isFile), atPath, isFound⟩, isImport, rfl⟩

theorem AwaitsImports.explains {g : Gathering} (awaits : f.AwaitsImports paths dirs g)
    (fails : g.Fails (.ofFiles f (dirs.map .ofString)) fault) : f.Explains paths dirs fault := by
  obtain ⟨n, pending, next, failed⟩ := fails
  obtain ⟨m, k, r, meets, imported, rfl⟩ := awaits.pending n (next ▸ List.mem_cons_self)
  exact explains_of_look meets imported failed

/-- A round leaves names pending that were so before, or that modules of a file found for the name
import. -/
theorem AwaitsImports.round {g g' : Gathering} (awaits : f.AwaitsImports paths dirs g)
    (round : Gathering.Round (.ofFiles f (dirs.map .ofString)) g g') :
    f.AwaitsImports paths dirs g' := by
  obtain ⟨n, isPending, pending, read⟩ := round.origin
  obtain ⟨m, k, r, meets, isImport, rfl⟩ := awaits.pending n isPending
  constructor
  · intro n' waiting
    obtain before | ⟨place, found, searched, x, isFound, k', isImport', r', rfl⟩ :=
      pending n' waiting
    · exact awaits.pending n' before
    · have searched := (search_inReading k r).symm.trans searched
      exact ⟨x, k', r', meets.found isImport searched isFound, isImport', rfl⟩
  · intro place isRead
    obtain before | ⟨found, searched⟩ := read place isRead
    · exact awaits.read place before
    · have searched := (search_inReading k r).symm.trans searched
      obtain ⟨_, _, reads, atPath, among⟩ := meets
      exact .imported reads atPath among isImport (search_eq_ok.1 searched).1

/-- Why named files cannot be taken up is explained. -/
theorem load_of_unreadable
    (unreadable : ¬ ∃ named, f.named paths = .ok named ∧ ∀ m ∈ named, m.IsNamed) :
    ∃ fault, (f.load paths dirs).outcome = .error fault.voiced ∧ f.Explains paths dirs fault := by
  cases taken : ((Loaded.turns [] paths).foldlM (Loaded.addFile f) ⟨[], []⟩).outcome with
  | error fault =>
    obtain ⟨file, isNamed, l, failed⟩ := Journaled.exists_of_foldlM taken
    refine ⟨fault, ?_, explains_of_addFile (mem_of_turns isNamed) failed⟩
    simp [load, Journaled.voiced, taken, Except.mapError]
  | ok l =>
    obtain ⟨named, read, names, -⟩ := Loaded.foldlM_turns_eq_ok.1 taken
    exact (unreadable ⟨named, read, names⟩).elim

/-- The file at a place holds a module that imports something and has a name that does not last. -/
def Unsteady (f : Files) (place : Path) : Prop :=
  ∃ found, f.modulesAt place = .ok found ∧ ∃ m ∈ found, m.imports ≠ [] ∧ ¬ m.name.Lasts

theorem unsteady_of_library {places : List Path} {place : Path}
    (unsteady : (Library.ofFiles f places).Unsteady place) : f.Unsteady place := by
  obtain ⟨_, found, searched, among⟩ := unsteady
  exact ⟨found, (search_eq_ok.1 searched).2, among⟩

open Gathering in
/-- A load of named files comes by rounds to its modules or to an explained fault, or it goes on for
ever and reads an unsteady file more often than any number of times. -/
theorem load_of_named {named : List Module} (read : f.named paths = .ok named)
    (names : ∀ m ∈ named, m.IsNamed) :
    (∃ n last, Rounds (.ofFiles f (dirs.map .ofString)) (.start named) n last ∧
      (last.pending = [] ∧ (f.load paths dirs).outcome =
          .ok ⟨Loaded.withStandard last.modules, (Loaded.ofNamed named).requested⟩ ∨
        ∃ fault, last.Fails (.ofFiles f (dirs.map .ofString)) fault ∧
          (f.load paths dirs).outcome = .error fault.voiced ∧ f.Explains paths dirs fault)) ∨
    (f.load paths dirs).outcome = .error .endless ∧
      ∃ place, f.Reads paths dirs place ∧ f.Unsteady place ∧
        ∀ k, ∃ n g, Rounds (.ofFiles f (dirs.map .ofString)) (.start named) n g ∧
          k ≤ g.read.count place := by
  have awaits : f.AwaitsImports paths dirs (.start named) := awaitsImports_start read
  rw [outcome_load dirs read names]
  obtain ⟨n, last, rounds, ⟨done, finished⟩ | ⟨fault, fails, failed⟩⟩ | ⟨endless, unbounded⟩ :=
    endsWith_or_endless (.ofFiles f (dirs.map .ofString)) (.start named)
  · exact .inl ⟨n, last, rounds, .inl ⟨done, by rw [finished]; rfl⟩⟩
  · exact .inl ⟨n, last, rounds, .inr ⟨fault, fails, by rw [failed]; rfl,
      (rounds.keeps AwaitsImports.round awaits).explains fails⟩⟩
  · obtain ⟨place, unsteady, often⟩ := (endless_iff rfl (Entries.ofList_spec _).1).1 unbounded
    obtain ⟨n, last, rounds, once⟩ := often 1
    have reads := (rounds.keeps AwaitsImports.round awaits).read place (List.count_pos_iff.1 once)
    exact .inr ⟨by rw [endless]; rfl, place, reads, unsteady_of_library unsteady, often⟩

/-- A load gives a graph or reports a problem, unless something breaks it down, or it goes on for
ever with an unsteady file. -/
theorem load_reported (f : Files) (paths dirs : List String) :
    (∃ l g, (f.load paths dirs).outcome = .ok l ∧ l.graph = .ok g) ∨
      (∃ p, (f.load paths dirs).outcome = .error (.problem p)) ∨
      (∃ m, (f.load paths dirs).outcome = .error (.mishap m) ∧ f.Breaks paths dirs m) ∨
      (f.load paths dirs).outcome = .error .endless ∧
        ∃ place, f.Reads paths dirs place ∧ f.Unsteady place := by
  have explained {fault : Fault} (failed : (f.load paths dirs).outcome = .error fault.voiced)
      (explains : f.Explains paths dirs fault) :
      (∃ p, (f.load paths dirs).outcome = .error (.problem p)) ∨
        ∃ m, (f.load paths dirs).outcome = .error (.mishap m) ∧ f.Breaks paths dirs m := by
    rw [failed]
    rw [Explains] at explains
    cases voiced : fault.voiced with
    | problem p => exact .inl ⟨p, rfl⟩
    | mishap m =>
      rw [voiced] at explains
      exact .inr ⟨m, rfl, explains⟩
    | exit _ | endless =>
      rw [voiced] at explains
      cases explains
  by_cases readable : ∃ named, f.named paths = .ok named ∧ ∀ m ∈ named, m.IsNamed
  · obtain ⟨named, read, names⟩ := readable
    obtain ⟨_, _, -, ⟨-, loaded⟩ | ⟨fault, -, failed, explains⟩⟩ |
      ⟨endless, place, reads, unsteady, -⟩ := load_of_named read names
    · obtain ⟨g, made, -⟩ := exists_graph loaded
      exact .inl ⟨_, g, loaded, made⟩
    · exact .inr ((explained failed explains).imp_right .inl)
    · exact .inr (.inr (.inr ⟨endless, place, reads, unsteady⟩))
  · obtain ⟨fault, failed, explains⟩ := load_of_unreadable readable
    exact .inr ((explained failed explains).imp_right .inl)

/-- Bytes that encode no text break every load down whose first file holds them. -/
theorem load_of_noText {path : String} {content : ByteArray}
    (isRead : f.read (.ofString path) = .bytes content)
    (noText : String.fromUTF8? content = none) :
    (f.load (path :: paths) dirs).outcome = .error (.mishap .notText) := by
  have undecoded : Document.textOf content = .error (.mishap .notText) := by
    rw [Document.textOf, noText]
  have unread : f.modulesAt (.ofString path) = .error (.mishap .notText) := by
    rw [modulesAt, isRead]
    simp only [Document.ofContent, undecoded, Outcome.error_bind]
    rfl
  have untaken (turn : Nat) :
      (Loaded.addFile f ⟨[], []⟩ (path, turn)).outcome = .error (.mishap .notText) := by
    rw [Loaded.addFile, Journaled.outcome_bind, Journaled.outcome_monadLift, Files.namedAt, unread]
    rfl
  rw [load, Journaled.voiced, Journaled.outcome_bind, Loaded.turns, List.foldlM_cons,
    Journaled.outcome_bind, untaken]
  rfl

namespace Undecodable

/-- A file with one byte that encodes no text. -/
def files : Files where
  current := []
  entries := [(["m.json"], .file ⟨#[0xff]⟩)]

theorem load_fails : (files.load ["m.json"] []).outcome = .error (.mishap .notText) :=
  load_of_noText rfl (by decide +kernel)

end Undecodable

/-- What is wrong with files is not always reported. -/
theorem not_always_problem : ¬ ∀ (f : Files) (paths dirs : List String),
    (∃ l, (f.load paths dirs).outcome = .ok l) ∨
      ∃ p, (f.load paths dirs).outcome = .error (.problem p) := by
  intro always
  obtain ⟨l, loaded⟩ | ⟨p, failed⟩ := always Undecodable.files ["m.json"] []
  · cases loaded.symm.trans Undecodable.load_fails
  · cases failed.symm.trans Undecodable.load_fails

end Files

end AdlTables
