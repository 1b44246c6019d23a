import AdlTables.Proofs.Entries
import AdlTables.Proofs.Outcome
import AdlTables.Proofs.Readings

/-! # What a load gathers

Modules of the named files are the start; each look at a pending name then takes up modules and
makes their imports pending. A gathering goes on in rounds, each of which looks at the next pending
name, until nothing is pending or a look fails; else it has no end. At every moment an import of a
module that is loaded is loaded too, or is pending, or was looked for in a file that does not hold
it. When nothing is pending any more only the last can be missing: a file that is found for a name
and holds no module so called lets the name go astray, and nothing says so.
-/

namespace AdlTables

namespace Standard

/-- A standard module imports nothing and stands under its own name. -/
theorem of_find? {name : Value} {m : Module} (found : Entries.find? modules name = some m) :
    m.name = name ∧ m.imports = [] := by
  obtain ⟨known, same, member⟩ := Entries.mem_of_find? found
  have text (s : String) (like : (Value.text s).same name) : .text s = name :=
    (Value.eq_text_of_same (Value.same_symm like)).symm
  simp only [modules, List.map_cons, List.map_nil, List.mem_cons, Prod.mk.injEq,
    List.not_mem_nil, or_false] at member
  rcases member with ⟨rfl, rfl⟩ | ⟨rfl, rfl⟩ | ⟨rfl, rfl⟩ <;> exact ⟨text _ same, rfl⟩

theorem imports_eq_nil {entry : Value × Module} (member : entry ∈ modules) :
    entry.2.imports = [] := by
  simp only [modules, List.map_cons, List.map_nil, List.mem_cons, List.not_mem_nil,
    or_false] at member
  rcases member with rfl | rfl | rfl <;> rfl

end Standard

/-- A module whose name can be written and can stand as a key. -/
def Module.IsNamed (m : Module) : Prop :=
  m.name.isSayable ∧ m.name.key?.isSome

theorem Module.isNamed_of_text {m : Module} {s : String} (name : m.name = .text s) : m.IsNamed := by
  rw [IsNamed, name]
  exact ⟨rfl, rfl⟩

theorem Module.IsNamed.same_self {m : Module} (isNamed : m.IsNamed) : m.name.same m.name :=
  Value.same_self (Option.isSome_iff_ne_none.1 isNamed.2)

namespace Gathering

variable {library : Library} {place : Path} {g g' g'' : Gathering} {m : Module} {name : Value}

/-- A gathering with more modules, whose imports are looked at first. -/
def take (g : Gathering) (taken : List Module) : Gathering where
  modules := g.modules ++ taken.map fun m => (m.name, m)
  pending := (taken.flatMap Module.imports).reverse ++ g.pending
  read := g.read

@[simp] theorem take_nil : g.take [] = g := by
  simp [take]

private theorem take_take (first second : List Module) :
    (g.take first).take second = g.take (first ++ second) := by
  simp [take]

theorem has_take {taken : List Module} : Entries.has (g.take taken).modules name =
    (Entries.has g.modules name || taken.any (·.name.same name)) := by
  simp [take, Entries.has, Function.comp_def]

/-- A module is taken up unless its name is taken. -/
theorem add_eq_ok : (add place g m).outcome = .ok g' ↔ m.name.key?.isSome ∧
    (Entries.has g.modules m.name ∧ g' = g ∨
      Entries.has g.modules m.name = false ∧ m.name.isSayable ∧ g' = g.take [m]) := by
  rw [add]
  split
  · rename_i noKey
    simp only [Option.isNone_iff_eq_none] at noKey
    simp [Journaled.fail, noKey]
  · rename_i isKey
    have isKey : m.name.key?.isSome := by simpa [Option.isSome_iff_ne_none] using isKey
    split
    · rename_i taken
      simpa [isKey, taken] using eq_comm
    · rename_i absent
      have absent : Entries.has g.modules m.name = false := by simpa using absent
      rw [Entries.put_of_absent absent]
      cases sayable : m.name.isSayable
      · simp [absent, sayable, Value.say, Fault.breakDown]
      · simpa [isKey, absent, sayable, Value.say, take] using eq_comm

/-- The modules of a file are taken up but for those whose names are taken. -/
theorem foldlM_add_eq_ok {found : List Module}
    (success : (found.foldlM (add place) g).outcome = .ok g') :
    ∃ taken, taken.Sublist found ∧ g' = g.take taken ∧
      (∀ m ∈ found, Entries.has g'.modules m.name) ∧
      (Entries.Distinct g.modules → Entries.Distinct g'.modules) := by
  induction found generalizing g with
  | nil =>
    obtain rfl : g = g' := by simpa using success
    exact ⟨[], .refl [], by simp, by simp, id⟩
  | cons m rest ih =>
    rw [List.foldlM_cons, Journaled.outcome_bind, Outcome.bind_eq_ok] at success
    obtain ⟨g₁, first, later⟩ := success
    obtain ⟨taken, sub, rfl, present, distinct⟩ := ih later
    obtain ⟨isKey, ⟨known, rfl⟩ | ⟨absent, _, rfl⟩⟩ := add_eq_ok.1 first
    · -- the name is taken, by an earlier module of this file or before, and nothing changes
      refine ⟨taken, sub.cons m, rfl, fun x member => ?_, distinct⟩
      obtain rfl | member := List.mem_cons.1 member
      · simp [has_take, known]
      · exact present x member
    · refine ⟨m :: taken, sub.cons_cons m, take_take [m] taken, fun x member => ?_,
        fun before => ?_⟩
      · obtain rfl | member := List.mem_cons.1 member
        · have like : x.name.same x.name := Value.same_self (Option.isSome_iff_ne_none.1 isKey)
          simp [has_take, like]
        · exact present x member
      · exact distinct (Entries.distinct_append_singleton before absent)

/-- What a look takes up: nothing for a name that is taken, modules of the file that is found, as
its next reading gives them, or a standard module where no file is found. -/
theorem look_eq_ok (success : (look library g name).outcome = .ok g') :
    ∃ taken read, g' = take { g with read := read } taken ∧
      (Entries.Distinct g.modules → Entries.Distinct g'.modules) ∧
      (Entries.has g.modules name ∧ taken = [] ∧ read = g.read ∨
        Entries.has g.modules name = false ∧
          ((∃ place found, ∃ sub : List Module, library.search name = .ok (some (place, found)) ∧
            sub.Sublist found ∧ taken = sub.map (Module.inReading (g.reading place)) ∧
            read = place :: g.read ∧
            ∀ m ∈ found, Entries.has g'.modules (m.inReading (g.reading place)).name) ∨
          ∃ m, library.search name = .ok none ∧ Entries.find? Standard.modules name = some m ∧
            taken = [m] ∧ read = g.read)) := by
  rw [look] at success
  split at success
  · simp [Journaled.fail] at success
  split at success
  · rename_i known
    obtain rfl : g = g' := by simpa using success
    exact ⟨[], g.read, by simp, id, .inl ⟨known, rfl, rfl⟩⟩
  rename_i absent
  have absent : Entries.has g.modules name = false := by simpa using absent
  rw [Journaled.outcome_bind, Outcome.bind_eq_ok] at success
  obtain ⟨result, searched, success⟩ := success
  rw [Journaled.outcome_monadLift] at searched
  cases result with
  | some file =>
    obtain ⟨place, found⟩ := file
    obtain ⟨taken, sub, rfl, present, distinct⟩ := foldlM_add_eq_ok success
    obtain ⟨chosen, isSub, rfl⟩ := List.sublist_map_iff.1 sub
    exact ⟨_, _, rfl, distinct, .inr ⟨absent, .inl ⟨place, found, chosen, searched, isSub, rfl, rfl,
      List.forall_mem_map.1 present⟩⟩⟩
  | none =>
    simp only at success
    split at success
    · rename_i m standard
      obtain ⟨rfl, imports⟩ := Standard.of_find? standard
      obtain rfl : { g with modules := Entries.put g.modules m.name m } = g' := by
        simpa using success
      rw [Entries.put_of_absent absent]
      exact ⟨[m], g.read, by simp [take, imports], fun before =>
        Entries.distinct_append_singleton before absent,
        .inr ⟨absent, .inr ⟨m, searched, standard, rfl, rfl⟩⟩⟩
    · simp [Journaled.raise] at success

/-- A look takes up the module of a file that holds only one. -/
theorem look_of_search (isKey : name.key?.isSome) (absent : Entries.has g.modules name = false)
    (searched : library.search name = .ok (some (place, [m]))) (named : m.IsNamed)
    (new : Entries.has g.modules (m.inReading (g.reading place)).name = false) :
    (look library g name).outcome =
      .ok ((g.reads place).take [m.inReading (g.reading place)]) := by
  have added : (add place (g.reads place) (m.inReading (g.reading place))).outcome =
      .ok ((g.reads place).take [m.inReading (g.reading place)]) :=
    add_eq_ok.2 ⟨by simpa using named.2, .inr ⟨new, by simpa using named.1, rfl⟩⟩
  have noneless : name.key?.isNone = false := by simpa using isKey
  simp [look, noneless, absent, searched, added]

/-- What is pending after a round was so before, or a module in the file that is found for the name
of the round imports it in some reading. No other file is read. -/
theorem Round.origin (round : Round library g g') : ∃ name ∈ g.pending,
    (∀ n ∈ g'.pending, n ∈ g.pending ∨ ∃ place found,
      library.search name = .ok (some (place, found)) ∧
        ∃ m ∈ found, ∃ k ∈ m.imports, ∃ r, k.inReading r = n) ∧
    ∀ place ∈ g'.read, place ∈ g.read ∨
      ∃ found, library.search name = .ok (some (place, found)) := by
  obtain ⟨name, pending, next, looked⟩ := round
  obtain ⟨taken, read, rfl, -, reason⟩ := look_eq_ok looked
  have before {n : Value} (waiting : n ∈ pending) : n ∈ g.pending :=
    next ▸ List.mem_cons_of_mem _ waiting
  refine ⟨name, next ▸ List.mem_cons_self, ?_⟩
  obtain ⟨-, rfl, rfl⟩ | ⟨-, ⟨place, found, chosen, searched, sub, rfl, rfl, -⟩ |
    ⟨m, -, standard, rfl, rfl⟩⟩ := reason
  · exact ⟨fun n waiting => .inl (before (by simpa [take] using waiting)), fun _ => .inl⟩
  · constructor
    · intro n waiting
      obtain new | old := List.mem_append.1 waiting
      · obtain ⟨_, isTaken, imported⟩ := List.mem_flatMap.1 (List.mem_reverse.1 new)
        obtain ⟨m, isChosen, rfl⟩ := List.mem_map.1 isTaken
        obtain ⟨k, isImport, same⟩ := List.mem_map.1 imported
        exact .inr ⟨place, found, searched, m, sub.subset isChosen, k, isImport, _, same⟩
      · exact .inl (before old)
    · intro place' isRead
      obtain rfl | earlier := List.mem_cons.1 isRead
      · exact .inr ⟨found, searched⟩
      · exact .inl earlier
  · obtain ⟨-, imports⟩ := Standard.of_find? standard
    exact ⟨fun n waiting => .inl (before (by simpa [take, imports] using waiting)), fun _ => .inl⟩

theorem Round.unique (first : Round library g g') (second : Round library g g'') : g' = g'' := by
  obtain ⟨name, pending, next, looked⟩ := first
  obtain ⟨name', pending', next', looked'⟩ := second
  obtain ⟨rfl, rfl⟩ := List.cons.inj (next.symm.trans next')
  exact Except.ok.inj (looked.symm.trans looked')

private theorem Round.not_fails {fault : Fault} (round : Round library g g') :
    ¬ Fails library g fault := by
  rintro ⟨name, pending, next, failed⟩
  obtain ⟨name', pending', next', looked⟩ := round
  obtain ⟨rfl, rfl⟩ := List.cons.inj (next.symm.trans next')
  cases looked.symm.trans failed

theorem Rounds.unique {n : Nat} (first : Rounds library g n g') (second : Rounds library g n g'') :
    g' = g'' := by
  induction first generalizing g'' with
  | start =>
    cases second
    rfl
  | next _ round ih =>
    cases second with
    | next rounds round' =>
      obtain rfl := ih rounds
      exact round.unique round'

theorem Rounds.after {n : Nat} (round : Round library g g') (rounds : Rounds library g' n g'') :
    Rounds library g (n + 1) g'' := by
  induction rounds with
  | start => exact .next .start round
  | next _ last ih => exact .next ih last

/-- What every round keeps holds after any number of rounds. -/
theorem Rounds.keeps {Inv : Gathering → Prop} (kept : ∀ {g g'}, Inv g → Round library g g' → Inv g')
    {n : Nat} (start : Inv g) (rounds : Rounds library g n g') : Inv g' := by
  induction rounds with
  | start => exact start
  | next _ round ih => exact kept ih round

theorem Rounds.exists_of_le {n k : Nat} (rounds : Rounds library g n g') (fewer : k ≤ n) :
    ∃ last, Rounds library g k last := by
  induction rounds with
  | start => exact ⟨g, (Nat.le_zero.1 fewer) ▸ .start⟩
  | @next n g' g'' before round ih =>
    obtain within | rfl := Nat.le_succ_iff.1 fewer
    · exact ih within
    · exact ⟨g'', before.next round⟩

/-- There are no rounds behind one after which nothing is pending, or which fails. -/
theorem Rounds.le_of_ends {n k : Nat} {last : Gathering} (rounds : Rounds library g n last)
    (ends : last.pending = [] ∨ ∃ fault, last.Fails library fault)
    (rounds' : Rounds library g k g') : k ≤ n := by
  by_contra more
  obtain ⟨_, further⟩ := rounds'.exists_of_le (Nat.lt_of_not_le more)
  cases further with
  | next before round =>
    obtain rfl := before.unique rounds
    obtain done | ⟨_, fails⟩ := ends
    · obtain ⟨_, _, next, -⟩ := round
      cases done.symm.trans next
    · exact round.not_fails fails

theorem EndsWith.unique {outcome outcome' : Except Fault (List (Value × Module))}
    (first : EndsWith library g outcome) (second : EndsWith library g outcome') :
    outcome = outcome' := by
  obtain ⟨n, last, rounds, ends⟩ := first
  obtain ⟨n', last', rounds', ends'⟩ := second
  have stops := ends.imp And.left fun ⟨fault, fails, _⟩ => Exists.intro fault fails
  have stops' := ends'.imp And.left fun ⟨fault, fails, _⟩ => Exists.intro fault fails
  obtain rfl := Nat.le_antisymm (rounds'.le_of_ends stops' rounds) (rounds.le_of_ends stops rounds')
  obtain rfl := rounds.unique rounds'
  obtain ⟨done, rfl⟩ | ⟨fault, fails, rfl⟩ := ends <;>
    obtain ⟨done', rfl⟩ | ⟨fault', fails', rfl⟩ := ends'
  · rfl
  · obtain ⟨_, _, next, -⟩ := fails'
    cases done.symm.trans next
  · obtain ⟨_, _, next, -⟩ := fails
    cases done'.symm.trans next
  · obtain ⟨_, _, next, failed⟩ := fails
    obtain ⟨_, _, next', failed'⟩ := fails'
    obtain ⟨rfl, rfl⟩ := List.cons.inj (next.symm.trans next')
    rw [Except.error.inj (failed.symm.trans failed')]

/-- A step of the loop is a round, or it comes to the end. -/
private theorem Stage.step_cases (s : Stage library g) :
    (∃ ended, s.step = .inr (some ended)) ∨
      ∃ s', s.step = .inl s' ∧ Round library s.here s'.here := by
  rw [step]
  split
  · exact .inl ⟨_, rfl⟩
  · rename_i name pending next
    simp only
    split
    · exact .inl ⟨_, rfl⟩
    · rename_i result
      exact .inr ⟨_, rfl, name, pending, next, result⟩

private theorem Stage.end?_of_step {s s' : Stage library g} (step : s.step = .inl s') :
    s.end? = s'.end? := by
  rw [end?, repeatM_eq_of_monadTail]
  simp only [repeatM.body, step]
  rfl

private theorem Stage.end?_of_ended {s : Stage library g} {ended : End library g}
    (step : s.step = .inr (some ended)) : s.end? = some ended := by
  rw [end?, repeatM_eq_of_monadTail]
  simp only [repeatM.body, step]
  rfl

/-- From a stage that leads to no end there are rounds of every number, to such stages again. -/
private theorem Stage.exists_rounds {s : Stage library g} (endless : s.end? = none) (n : Nat) :
    ∃ s' : Stage library g, Rounds library s.here n s'.here ∧ s'.end? = none := by
  induction n with
  | zero => exact ⟨s, .start, endless⟩
  | succ n ih =>
    obtain ⟨s', rounds, endless⟩ := ih
    obtain ⟨ended, step⟩ | ⟨s'', step, round⟩ := s'.step_cases
    · cases endless.symm.trans (Stage.end?_of_ended step)
    · exact ⟨s'', rounds.next round, (Stage.end?_of_step step).symm.trans endless⟩

/-- A gathering comes by rounds to where nothing is pending, or to a round that fails, or its rounds
go on for ever. -/
theorem endsWith_or_endless (library : Library) (g : Gathering) :
    EndsWith library g (finish library g).outcome ∨
      (finish library g).outcome = .error .endless ∧ ∀ n, ∃ last, Rounds library g n last := by
  rw [finish]
  split
  · rename_i ended _
    exact .inl ended.property
  · rename_i endless
    refine .inr ⟨rfl, fun n => ?_⟩
    obtain ⟨s, rounds, -⟩ := Stage.exists_rounds endless n
    exact ⟨s.here, rounds⟩

theorem EndsWith.outcome_finish {outcome : Except Fault (List (Value × Module))}
    (ends : EndsWith library g outcome) : (finish library g).outcome = outcome := by
  obtain ends' | ⟨-, endless⟩ := endsWith_or_endless library g
  · exact ends'.unique ends
  · obtain ⟨n, last, rounds, stops⟩ := ends
    obtain ⟨_, further⟩ := endless (n + 1)
    have stops := stops.imp And.left fun ⟨fault, fails, _⟩ => Exists.intro fault fails
    exact absurd (rounds.le_of_ends stops further) (Nat.not_succ_le_self n)

theorem outcome_finish_nil (done : g.pending = []) :
    (finish library g).outcome = .ok g.modules :=
  EndsWith.outcome_finish ⟨0, g, .start, .inl ⟨done, rfl⟩⟩

/-- The modules of a gathering that ends well are those that its rounds come to. -/
theorem exists_rounds_of_finish {modules : List (Value × Module)}
    (finished : (finish library g).outcome = .ok modules) :
    ∃ n last, Rounds library g n last ∧ last.pending = [] ∧ last.modules = modules := by
  obtain ⟨n, last, rounds, ⟨done, gives⟩ | ⟨_, _, failed⟩⟩ | ⟨endless, -⟩ :=
    endsWith_or_endless library g
  · exact ⟨n, last, rounds, done, Except.ok.inj (gives.symm.trans finished)⟩
  · cases finished.symm.trans failed
  · cases finished.symm.trans endless

/-- The gathering of modules that are named, before anything is looked at. -/
def start (named : List Module) : Gathering :=
  let modules := Entries.ofList (named.map fun m => (m.name, m))
  ⟨modules, ((Entries.values modules).flatMap Module.imports).reverse, []⟩

/-- Every import of a module that is loaded is loaded, pending or excused. -/
def Covers (excused : Value → Prop) (g : Gathering) : Prop :=
  ∀ entry ∈ g.modules, ∀ n ∈ entry.2.imports,
    Entries.has g.modules n ∨ n ∈ g.pending ∨ excused n

theorem covers_start (excused : Value → Prop) (named : List Module) :
    Covers excused (start named) := by
  intro entry member n imported
  refine .inr (.inl ?_)
  rw [start, List.mem_reverse, List.mem_flatMap]
  exact ⟨entry.2, List.mem_map_of_mem member, imported⟩

end Gathering

/-- A search for a name finds a file that holds no module so called. -/
def Library.Strays (library : Library) (name : Value) : Prop :=
  ∃ place found, library.search name = .ok (some (place, found)) ∧
    ∀ m ∈ found, m.name.same name = false

namespace Gathering

variable {library : Library} {g g' : Gathering} {modules : List (Value × Module)}

/-- A round covers the name that it passes. -/
theorem Covers.round (covers : Covers library.Strays g) (round : Round library g g') :
    Covers library.Strays g' := by
  obtain ⟨name, pending, next, looked⟩ := round
  obtain ⟨taken, read, rfl, -, reason⟩ := look_eq_ok looked
  have here : Entries.has (take { g with pending := pending, read := read } taken).modules name ∨
      library.Strays name := by
    obtain ⟨known, -⟩ | ⟨-, ⟨place, found, sub, searched, -, -, -, present⟩ |
      ⟨m, -, standard, rfl, -⟩⟩ := reason
    · simp [has_take, show Entries.has g.modules name from known]
    · -- all modules of the file are present afterwards, taken up now or known before
      by_cases strays : ∀ m ∈ found, m.name.same name = false
      · exact .inr ⟨place, found, searched, strays⟩
      · simp only [not_forall, Bool.not_eq_false] at strays
        obtain ⟨m, member, like⟩ := strays
        obtain ⟨s, rfl⟩ : ∃ s, name = .text s :=
          (Option.isSome_iff_exists.1 (library.isText searched)).imp fun _ => Value.text?_eq_some.1
        have present := present m member
        rw [Module.name_inReading, Value.eq_text_of_same like, Value.inReading_text] at present
        exact .inl present
    · obtain ⟨known, same, _⟩ := Entries.mem_of_find? standard
      obtain ⟨rfl, _⟩ := Standard.of_find? standard
      simp [has_take, Value.same_right same]
  intro entry member n imported
  obtain old | new := List.mem_append.1 member
  · obtain loaded | waiting | excused := covers entry old n imported
    · simp [has_take, show Entries.has g.modules n from loaded]
    · rw [next] at waiting
      obtain rfl | later := List.mem_cons.1 waiting
      · exact here.imp_right .inr
      · exact .inr (.inl (List.mem_append_right _ later))
    · exact .inr (.inr excused)
  · obtain ⟨m, isTaken, rfl⟩ := List.mem_map.1 new
    refine .inr (.inl (List.mem_append_left _ ?_))
    simpa using ⟨m, isTaken, imported⟩

/-- When nothing is pending any more every import is loaded or has gone astray. -/
theorem Covers.finish (covers : Covers library.Strays g)
    (success : (finish library g).outcome = .ok modules) {entry : Value × Module} {n : Value}
    (member : entry ∈ modules) (imported : n ∈ entry.2.imports) :
    Entries.has modules n ∨ library.Strays n := by
  obtain ⟨_, last, rounds, done, rfl⟩ := exists_rounds_of_finish success
  have covered := rounds.keeps Covers.round covers entry member n imported
  simpa [done] using covered

end Gathering

end AdlTables
