import AdlTables.Proofs.Reporting

/-! # How a load ends

A load reads the named files and goes on in rounds. These have an end unless an unsteady file is
read without end. That happens where the module in the file found for a name imports this name
itself: each reading gives the module another name, so the name that is looked for is never loaded.
-/

namespace AdlTables

namespace Gathering

variable {library : Library} {g : Gathering} {place : Path} {m : Module} {name : Value}
  {readings : List Reading} {node : Nat}

/-- The next name is one whose file holds a module with a new name in each reading, and nothing is
loaded under the name or under what a reading to come makes of the module's. -/
structure Loops (name : Value) (place : Path) (readings : List Reading) (node : Nat)
    (g : Gathering) : Prop where
  next : ∃ pending, g.pending = name :: pending
  absent : Entries.has g.modules name = false
  unmade (turn : Nat) : g.read.count place ≤ turn →
    Entries.has g.modules (.nan (.made (.found place turn :: readings) node)) = false

/-- A module with a new name in each reading, whose last import is what its file is found for, is
taken up and imports that name again. -/
theorem Loops.round (searched : library.search name = .ok (some (place, [m])))
    (named : m.name = .nan (.made readings node)) (imports : m.imports.getLast? = some name)
    (loops : Loops name place readings node g) :
    ∃ g', Round library g g' ∧ Loops name place readings node g' := by
  obtain ⟨pending, next⟩ := loops.next
  obtain ⟨before, imports⟩ := List.getLast?_eq_some_iff.1 imports
  obtain ⟨s, rfl⟩ : ∃ s, name = .text s :=
    (Option.isSome_iff_exists.1 (library.isText searched)).imp fun _ => Value.text?_eq_some.1
  have made (r : Reading) : m.name.inReading r = .nan (.made (r :: readings) node) := by
    simp [named, Value.inReading, Nan.inReading]
  have looked : (look library { g with pending := pending } (.text s)).outcome = .ok _ :=
    look_of_search rfl loops.absent searched ⟨by rw [named]; rfl, by rw [named]; rfl⟩
      ((congrArg _ (made _)).trans (loops.unmade _ (Nat.le_refl _)))
  refine ⟨_, ⟨_, pending, next, looked⟩, ?_, ?_, fun turn later => ?_⟩
  · simp [take, imports]
  · simp [has_take, reads, made, loops.absent, Value.same, Value.key?]
  · have counted : g.read.count place + 1 ≤ turn := by simpa [take, reads] using later
    have differs : g.read.count place ≠ turn := by omega
    simp [has_take, reads, reading, made, loops.unmade turn (by omega), Value.same, Value.key?,
      differs]

theorem Loops.endless (searched : library.search name = .ok (some (place, [m])))
    (named : m.name = .nan (.made readings node)) (imports : m.imports.getLast? = some name)
    (loops : Loops name place readings node g) (n : Nat) :
    ∃ last, Rounds library g n last ∧ Loops name place readings node last := by
  induction n with
  | zero => exact ⟨g, .start, loops⟩
  | succ n ih =>
    obtain ⟨last, rounds, loops⟩ := ih
    obtain ⟨g', round, loops⟩ := loops.round searched named imports
    exact ⟨g', rounds.next round, loops⟩

end Gathering

namespace Files

open Gathering

def imports (f : Files) : List Value :=
  f.holdings.flatMap Module.imports

variable {f : Files} {paths dirs : List String} {fault : Fault}

/-- What is explained has an end. -/
theorem Explains.ne_endless (explains : f.Explains paths dirs fault) : fault.voiced ≠ .endless := by
  intro endless
  rw [Explains, endless] at explains
  exact explains

/-- A load ends unless it reads an unsteady file without end. It fails at once if the named files
cannot be read or hold a module without a name. If not it goes on in rounds. These and the names
that are pending after them are no more than the names that are pending at the start and the imports
of the modules in all files, which count once and once more for each time that an unsteady file was
read. The rounds come to where nothing is pending, and the load gives a graph, or to one that fails,
and the load fails so. If they go on for ever there is one unsteady file that is read more often
than any number of times. -/
theorem load_ends (f : Files) (paths dirs : List String) :
    (∃ fault, (f.load paths dirs).outcome = .error fault ∧ fault ≠ .endless ∧
      ¬ ∃ named, f.named paths = .ok named ∧ ∀ m ∈ named, m.IsNamed) ∨
    ∃ named, f.named paths = .ok named ∧ (∀ m ∈ named, m.IsNamed) ∧
      (∀ n g, Rounds (.ofFiles f (dirs.map .ofString)) (.start named) n g →
        ∃ again : List Path, again.Sublist g.read ∧ (∀ place ∈ again, f.Unsteady place) ∧
          n + g.pending.length ≤
            (start named).pending.length + (again.length + 1) * f.imports.length) ∧
      ((∃ n last, Rounds (.ofFiles f (dirs.map .ofString)) (.start named) n last ∧
          ((last.pending = [] ∧ ∃ l graph, (f.load paths dirs).outcome = .ok l ∧
              l.modules = Loaded.withStandard last.modules ∧ l.graph = .ok graph) ∨
            ∃ fault, last.Fails (.ofFiles f (dirs.map .ofString)) fault ∧
              (f.load paths dirs).outcome = .error fault.voiced ∧ fault.voiced ≠ .endless)) ∨
        (f.load paths dirs).outcome = .error .endless ∧
          ∃ place, f.Reads paths dirs place ∧ f.Unsteady place ∧ ∀ k, ∃ n g,
            Rounds (.ofFiles f (dirs.map .ofString)) (.start named) n g ∧
              k ≤ g.read.count place) := by
  by_cases readable : ∃ named, f.named paths = .ok named ∧ ∀ m ∈ named, m.IsNamed
  · obtain ⟨named, read, names⟩ := readable
    refine .inr ⟨named, read, names, fun n g rounds => ?_, ?_⟩
    · obtain ⟨again, sub, unsteady, bounded⟩ := rounds.bounded (Entries.ofList_spec _).1
      exact ⟨again, sub, fun place among => unsteady_of_library (unsteady place among), bounded⟩
    · refine (load_of_named read names).imp_left fun ⟨n, last, rounds, ends⟩ => ?_
      refine ⟨n, last, rounds, ends.imp (fun ⟨done, loaded⟩ => ?_)
        fun ⟨fault, fails, failed, why⟩ => ⟨fault, fails, failed, why.ne_endless⟩⟩
      obtain ⟨graph, made, -⟩ := exists_graph loaded
      exact ⟨done, _, graph, loaded, rfl, made⟩
  · obtain ⟨fault, failed, explains⟩ := load_of_unreadable readable
    exact .inl ⟨_, failed, explains.ne_endless, readable⟩

/-- A load goes on for ever exactly if it reads an unsteady file more often than any number of
times. -/
theorem load_endless_iff : (f.load paths dirs).outcome = .error .endless ↔
    ∃ named, f.named paths = .ok named ∧ (∀ m ∈ named, m.IsNamed) ∧
      ∃ place, f.Unsteady place ∧ ∀ k, ∃ n g,
        Rounds (.ofFiles f (dirs.map .ofString)) (.start named) n g ∧ k ≤ g.read.count place := by
  constructor
  · intro endless
    by_cases readable : ∃ named, f.named paths = .ok named ∧ ∀ m ∈ named, m.IsNamed
    · obtain ⟨named, read, names⟩ := readable
      obtain ⟨_, _, -, ⟨-, loaded⟩ | ⟨_, -, failed, explains⟩⟩ | ⟨-, place, -, unsteady, often⟩ :=
        load_of_named read names
      · cases endless.symm.trans loaded
      · exact (explains.ne_endless (Except.error.inj (failed.symm.trans endless))).elim
      · exact ⟨named, read, names, place, unsteady, often⟩
    · obtain ⟨_, failed, explains⟩ := load_of_unreadable readable
      exact (explains.ne_endless (Except.error.inj (failed.symm.trans endless))).elim
  · rintro ⟨named, read, names, place, -, often⟩
    obtain ⟨n, last, rounds, ends⟩ | ⟨endless, -⟩ := load_of_named read names
    · -- rounds that come to an end read no file more often than they are many
      obtain ⟨n', g, rounds', many⟩ := often (n + 1)
      have few :=
        rounds.le_of_ends (ends.imp And.left fun ⟨fault, fails, _⟩ => ⟨fault, fails⟩) rounds'
      have counted := rounds'.count_read_le place
      simp only [start, List.count_nil] at counted
      omega
    · exact endless

namespace NewName

/-- A module that imports `x`, and the file for `x`, whose module imports `x` too and is called by a
number that is none. -/
def files : Files where
  current := []
  entries := [
    (["main.yaml"], .file "name: m\nimports: [x]\ndecls: \x7b\x7d\n".toUTF8),
    (["x.yaml"], .file "name: !!float nan\nimports: [x]\ndecls: \x7b\x7d\n".toUTF8)]

/-- Whether modules are one that imports `x` only and is called by a new number that is none. -/
def isMade : List Module → Bool
  | [m] => (match m.name with
    | .nan (.made _ _) => true
    | _ => false) && m.imports.map Value.text? == [some "x"]
  | _ => false

private theorem of_isMade {ms : List Module} (made : isMade ms) : ∃ m readings node,
    ms = [m] ∧ m.name = .nan (.made readings node) ∧ m.imports = [.text "x"] := by
  match ms, made with
  | [m], made =>
    rw [isMade, Bool.and_eq_true, beq_iff_eq] at made
    obtain ⟨isNew, imports⟩ := made
    have imports : m.imports = ["x"].map .text := Value.map_text?_eq.1 imports
    split at isNew
    · exact ⟨m, _, _, rfl, ‹_›, imports⟩
    · cases isNew

theorem exists_named : ∃ named, files.named ["main.yaml"] = .ok named ∧
    ∀ n, ∃ last, Rounds (.ofFiles files [.ofString "."]) (.start named) n last := by
  have first : (files.named ["main.yaml"]).toOption.any (isOnly "m" ["x"]) := by decide +kernel
  have second : (files.search [.ofString "."] (.text "x")).toOption.any
      fun found? => found?.any fun found => isMade found.2 := by decide +kernel
  obtain ⟨ms, read, only⟩ := Outcome.any_toOption.1 first
  obtain ⟨m, rfl, name, imports⟩ := of_isOnly only
  obtain ⟨found?, searched, made⟩ := Outcome.any_toOption.1 second
  obtain ⟨⟨place, ms⟩, rfl, made⟩ := (Option.any_eq_true _ _).1 made
  obtain ⟨m', readings, node, rfl, name', imports'⟩ := of_isMade made
  have found : (Library.ofFiles files [.ofString "."]).search (.text "x") =
      .ok (some (place, [m'])) := searched
  have start : Gathering.start [m] = ⟨[(.text "m", m)], [.text "x"], []⟩ := by
    simp [Gathering.start, Entries.ofList, Entries.put, Entries.values, name, imports]
  have loops : Loops (.text "x") place readings node (.start [m]) := by
    rw [start]
    exact ⟨⟨[], rfl⟩, by simp [Entries.has], fun turn _ => by
      simp [Entries.has, Value.same, Value.key?]⟩
  refine ⟨[m], read, fun n => ?_⟩
  obtain ⟨last, rounds, -⟩ := loops.endless found name' (by rw [imports']; rfl) n
  exact ⟨last, rounds⟩

end NewName

/-- The rounds of a load do not always come to an end. -/
theorem not_always_ends : ¬ ∀ (f : Files) (paths dirs : List String) (named : List Module),
    f.named paths = .ok named → ∃ n last,
      Rounds (.ofFiles f (dirs.map .ofString)) (.start named) n last ∧
        (last.pending = [] ∨ ∃ fault, last.Fails (.ofFiles f (dirs.map .ofString)) fault) := by
  intro always
  obtain ⟨named, read, endless⟩ := NewName.exists_named
  obtain ⟨n, last, rounds, ends⟩ := always NewName.files ["main.yaml"] ["."] named read
  obtain ⟨_, further⟩ := endless (n + 1)
  exact absurd (rounds.le_of_ends ends further) (Nat.not_succ_le_self n)

end Files

end AdlTables
