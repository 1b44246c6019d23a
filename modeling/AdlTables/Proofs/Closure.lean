import AdlTables.Proofs.Rounds
import Mathlib.Data.List.Pairwise

/-! # The closure of imports

A name stands for the last named module so called, else for the module in the file found for it,
else for a standard module. The names that a load has to reach are those of the named modules and,
step by step, what is imported by the modules that reached names stand for. Where each file that is
found holds the one module looked for, a gathering ends with exactly the modules of the reached
names, and it fails exactly if a reached name stands for nothing or the search for one fails. What
is loaded and what is pending only ever come from reached names, whatever the order of the looks.
-/

namespace AdlTables

namespace Module

def last? (named : List Module) (name : Value) : Option Module :=
  named.reverse.find? fun m => m.name.same name

variable {named : List Module} {m : Module} {a b name : Value}

private theorem last?_congr (named : List Module) (like : a.same b) :
    last? named a = last? named b := by
  rw [last?, last?]
  congr 1
  funext m
  exact Value.same_congr_right like

private theorem mem_of_last? (found : last? named name = some m) : m ∈ named ∧ m.name.same name :=
  ⟨List.mem_reverse.1 (List.mem_of_find?_eq_some found), by simpa using List.find?_some found⟩

private theorem last?_isSome : (last? named name).isSome ↔ ∃ m ∈ named, m.name.same name := by
  simp [last?, List.find?_isSome]

private theorem find?_named :
    Entries.find? (Entries.ofList (named.map fun m => (m.name, m))) name = last? named name := by
  rw [Entries.find?_ofList, ← List.map_reverse, List.find?_map, last?, Option.map_map]
  simp [Function.comp_def]

/-- No two of some modules have one name. -/
def Apart (ms : List Module) : Prop :=
  ms.Pairwise fun a b => a.name.same b.name = false

/-- Where no two modules have one name their order plays no part. -/
theorem last?_perm {named' : List Module} (apart : Apart named) (perm : named'.Perm named) :
    last? named' name = last? named name := by
  have unique {m m' : Module} (first : m ∈ named) (second : m' ∈ named)
      (like : m.name.same name) (like' : m'.name.same name) : m = m' := by
    by_contra differ
    have symmetric : Std.Symm fun a b : Module => a.name.same b.name = false :=
      ⟨fun a b unlike => (Value.same_comm _ _).trans unlike⟩
    have unlike : m.name.same m'.name = false := List.Pairwise.forall apart first second differ
    simp [Value.same_trans like (Value.same_symm like')] at unlike
  cases found : last? named' name with
  | some m =>
    obtain ⟨member, like⟩ := mem_of_last? found
    have member := perm.subset member
    obtain ⟨m', found'⟩ := Option.isSome_iff_exists.1 (last?_isSome.2 ⟨m, member, like⟩)
    obtain ⟨member', like'⟩ := mem_of_last? found'
    rw [found', unique member member' like like']
  | none =>
    cases found' : last? named name with
    | none => rfl
    | some m =>
      obtain ⟨member, like⟩ := mem_of_last? found'
      have present : (last? named' name).isSome :=
        last?_isSome.2 ⟨m, perm.symm.subset member, like⟩
      simp [found] at present

end Module

namespace Library

variable (library : Library) (named : List Module)

/-- The module that a name stands for. A file that is found for it is read once. -/
def define (name : Value) : Except Fault (Option Module) :=
  match Module.last? named name with
  | some m => .ok (some m)
  | none => do
    match ← library.search name with
    | some (place, found) =>
      return (found.find? (·.name.same name)).map (Module.inReading (.found place 0))
    | none => return Entries.find? Standard.modules name

/-- The names that a load has to reach. -/
inductive Reaches : Value → Prop
  | named {m : Module} : m ∈ named → Reaches m.name
  | imported {n k : Value} {m : Module} :
    Reaches n → library.define named n = .ok (some m) → k ∈ m.imports → Reaches k

/-- Named modules have names, files found for reached names hold the one module looked for, and all
imports are texts. -/
structure Tidy : Prop where
  isNamed : ∀ m ∈ named, m.IsNamed
  found {n : Value} {place : Path} {found : List Module} : library.Reaches named n →
    Module.last? named n = none → library.search n = .ok (some (place, found)) →
      ∃ m, found = [m] ∧ m.name.same n
  texts {n k : Value} {m : Module} : library.Reaches named n →
    library.define named n = .ok (some m) → k ∈ m.imports → k.text?.isSome

variable {library : Library} {named : List Module} {m : Module} {n k : Value}

theorem define_of_last? (found : Module.last? named n = some m) :
    library.define named n = .ok (some m) := by
  rw [define, found]

/-- A reached name that is not of a named module is a text. -/
theorem Tidy.text (tidy : library.Tidy named) (reached : library.Reaches named n)
    (unnamed : Module.last? named n = none) : ∃ s, n = .text s := by
  cases reached with
  | @named m member =>
    have present : (Module.last? named m.name).isSome :=
      Module.last?_isSome.2 ⟨m, member, (tidy.isNamed m member).same_self⟩
    simp [unnamed] at present
  | imported reached defined imported =>
    obtain ⟨s, text⟩ := Option.isSome_iff_exists.1 (tidy.texts reached defined imported)
    exact ⟨s, Value.text?_eq_some.1 text⟩

/-- Reached names that are one key stand for one module. -/
theorem Tidy.define_congr (tidy : library.Tidy named) (first : library.Reaches named n)
    (second : library.Reaches named k) (like : n.same k) :
    library.define named n = library.define named k := by
  have last := Module.last?_congr named like
  cases found : Module.last? named k with
  | some m => rw [define_of_last? found, define_of_last? (last.trans found)]
  | none =>
    obtain ⟨s, rfl⟩ := tidy.text first (last.trans found)
    obtain ⟨t, rfl⟩ := tidy.text second found
    obtain rfl : s = t := by simpa using like
    rfl

end Library

namespace Gathering

variable {library : Library} {named : List Module} {modules : List (Value × Module)}
  {g g' : Gathering} {name n : Value} {pending : List Value} {m : Module} {fault : Fault}

/-- What is loaded and pending on the way: modules that reached names stand for, under these names,
and reached names. A file that was read was found for a name that is loaded. -/
structure Gathers (library : Library) (named : List Module) (g : Gathering) : Prop where
  distinct : Entries.Distinct g.modules
  sound {n : Value} {m : Module} : Entries.find? g.modules n = some m →
    ∃ k, k.same n ∧ library.Reaches named k ∧ library.define named k = .ok (some m)
  pending : ∀ n ∈ g.pending, library.Reaches named n
  roots : ∀ m ∈ named, Entries.has g.modules m.name
  read : ∀ place ∈ g.read, ∃ n found, library.Reaches named n ∧ Module.last? named n = none ∧
    library.search n = .ok (some (place, found)) ∧ Entries.has g.modules n

private theorem gathers_start (isNamed : ∀ m ∈ named, m.IsNamed) :
    Gathers library named (start named) := by
  obtain ⟨distinct, known⟩ := Entries.ofList_spec (named.map fun m => (m.name, m))
  have isKey (n : Value) (member : n ∈ Entries.keys (start named).modules) : n.same n := by
    have among : ∃ m ∈ named, m.name = n := by simpa [Entries.keys] using known n member
    obtain ⟨m, isRoot, rfl⟩ := among
    exact (isNamed m isRoot).same_self
  have sound {n : Value} {m : Module} (found : Entries.find? (start named).modules n = some m) :
      ∃ k, k.same n ∧ library.Reaches named k ∧ library.define named k = .ok (some m) := by
    rw [start, Module.find?_named] at found
    obtain ⟨member, same⟩ := Module.mem_of_last? found
    exact ⟨m.name, same, .named member,
      Library.define_of_last? ((Module.last?_congr named same).trans found)⟩
  refine ⟨distinct, sound, fun k waiting => ?_, fun m member => ?_,
    fun _ isRead => absurd isRead List.not_mem_nil⟩
  · rw [start, List.mem_reverse, List.mem_flatMap] at waiting
    obtain ⟨m, loaded, imported⟩ := waiting
    obtain ⟨⟨n, _⟩, entry, rfl⟩ := List.mem_map.1 loaded
    obtain ⟨_, _, reached, defined⟩ := sound (Entries.find?_of_mem distinct entry
      (isKey n (List.mem_map_of_mem (f := (·.1)) entry)))
    exact .imported reached defined imported
  · rw [← Entries.find?_isSome, start, Module.find?_named]
    exact Module.last?_isSome.2 ⟨m, member, (isNamed m member).same_self⟩

/-- A name under which nothing is loaded is not that of a named module. -/
theorem Gathers.last?_eq_none (gathers : Gathers library named g)
    (absent : Entries.has g.modules name = false) : Module.last? named name = none := by
  by_contra present
  obtain ⟨m, member, same⟩ := Module.last?_isSome.1 (Option.isSome_iff_ne_none.2 present)
  rw [← Entries.has_congr same, gathers.roots m member] at absent
  cases absent

/-- The file that is found for a name which is not loaded was not read before. -/
theorem Gathers.reading_eq (tidy : library.Tidy named) (gathers : Gathers library named g)
    (reached : library.Reaches named name) (absent : Entries.has g.modules name = false)
    {place : Path} (searched : library.search name = .ok (some (place, [m]))) :
    g.reading place = .found place 0 := by
  rw [reading, List.count_eq_zero.2]
  intro isRead
  obtain ⟨n, found, reached', unnamed, searched', loaded⟩ := gathers.read place isRead
  obtain rfl := library.found_eq searched searched'
  -- the one module of the file would have both names, and the other is loaded
  obtain ⟨_, only, same⟩ := tidy.found reached (gathers.last?_eq_none absent) searched
  obtain ⟨_, only', same'⟩ := tidy.found reached' unnamed searched'
  obtain rfl := List.singleton_inj.1 (only.symm.trans only')
  rw [← Entries.has_congr same, Entries.has_congr same', loaded] at absent
  cases absent

/-- A look takes up what the name stands for. -/
theorem Gathers.look_taken (tidy : library.Tidy named) (gathers : Gathers library named g)
    (next : g.pending = name :: pending)
    (success : (look library { g with pending := pending } name).outcome = .ok g') :
    ∃ taken read, g' = take { g with pending := pending, read := read } taken ∧
      Entries.Distinct g'.modules ∧
      (∀ m ∈ taken, library.define named name = .ok (some m) ∧ m.name.same name) ∧
      ∀ place ∈ read, place ∈ g.read ∨ ∃ found, Module.last? named name = none ∧
        library.search name = .ok (some (place, found)) ∧ Entries.has g'.modules name := by
  obtain ⟨taken, read, rfl, distinct, reason⟩ := look_eq_ok success
  refine ⟨taken, read, rfl, distinct gathers.distinct, ?_⟩
  have reached : library.Reaches named name := gathers.pending name (next ▸ List.mem_cons_self)
  obtain ⟨-, rfl, rfl⟩ | ⟨absent, found | standard⟩ := reason
  · exact ⟨nofun, fun place isRead => .inl isRead⟩
  · obtain ⟨place, found, sub, searched, isSub, rfl, rfl, present⟩ := found
    have unnamed := gathers.last?_eq_none absent
    obtain ⟨m, rfl, same⟩ := tidy.found reached unnamed searched
    obtain ⟨s, rfl⟩ := tidy.text reached unnamed
    have isText : m.name = .text s := Value.eq_text_of_same same
    have turn : reading { g with pending := pending } place = .found place 0 :=
      gathers.reading_eq tidy reached absent searched
    constructor
    · intro m' member
      obtain ⟨x, isFound, rfl⟩ := List.mem_map.1 member
      obtain rfl := List.mem_singleton.1 (isSub.subset isFound)
      rw [turn]
      simp [Library.define, unnamed, searched, isText]
    · intro place' isRead
      obtain rfl | before := List.mem_cons.1 isRead
      · have present := present m List.mem_cons_self
        rw [Module.name_inReading, isText, Value.inReading_text] at present
        exact .inr ⟨[m], unnamed, searched, present⟩
      · exact .inl before
  · obtain ⟨m, searched, standard, rfl, rfl⟩ := standard
    have unnamed := gathers.last?_eq_none absent
    refine ⟨fun m' member => ?_, fun place isRead => .inl isRead⟩
    obtain rfl := List.mem_singleton.1 member
    obtain ⟨_, same, _⟩ := Entries.mem_of_find? standard
    obtain ⟨rfl, _⟩ := Standard.of_find? standard
    exact ⟨by simp [Library.define, unnamed, searched, standard], Value.same_right same⟩

/-- A round keeps to what names stand for. -/
theorem Gathers.round (tidy : library.Tidy named) (gathers : Gathers library named g)
    (round : Round library g g') : Gathers library named g' := by
  obtain ⟨name, pending, next, success⟩ := round
  obtain ⟨taken, read, rfl, distinct, defines, isRead⟩ := gathers.look_taken tidy next success
  have reached : library.Reaches named name := gathers.pending name (next ▸ List.mem_cons_self)
  refine ⟨distinct, fun {n m} found => ?_, fun n waiting => ?_, fun m member => ?_,
    fun place among => ?_⟩
  · rw [take, Entries.find?_append, Option.or_eq_some_iff] at found
    obtain old | ⟨-, new⟩ := found
    · exact gathers.sound old
    · obtain ⟨k, same, entry⟩ := Entries.mem_of_find? new
      obtain ⟨m', isTaken, rfl, rfl⟩ : ∃ m' ∈ taken, m'.name = k ∧ m' = m := by simpa using entry
      obtain ⟨defined, like⟩ := defines m' isTaken
      exact ⟨name, Value.same_trans (Value.same_symm like) same, reached, defined⟩
  · obtain new | old := List.mem_append.1 waiting
    · rw [List.mem_reverse, List.mem_flatMap] at new
      obtain ⟨m, isTaken, imported⟩ := new
      exact .imported reached (defines m isTaken).1 imported
    · exact gathers.pending n (next ▸ List.mem_cons_of_mem _ old)
  · rw [has_take, Bool.or_eq_true]
    exact .inl (gathers.roots m member)
  · obtain before | ⟨found, unnamed, searched, present⟩ := isRead place among
    · obtain ⟨n, found, reached, unnamed, searched, loaded⟩ := gathers.read place before
      refine ⟨n, found, reached, unnamed, searched, ?_⟩
      rw [has_take, Bool.or_eq_true]
      exact .inl loaded
    · exact ⟨name, found, reached, unnamed, searched, present⟩

/-- A round fails if the name stands for nothing, or the search for it fails. -/
theorem Gathers.fails (tidy : library.Tidy named) (gathers : Gathers library named g)
    (fails : Fails library g fault) :
    ∃ n, library.Reaches named n ∧ Module.last? named n = none ∧
      (library.search n = .error fault ∨ library.define named n = .ok none ∧
        fault = .problem (.importNotFound n library.places)) := by
  obtain ⟨name, pending, next, failed⟩ := fails
  have reached : library.Reaches named name := gathers.pending name (next ▸ List.mem_cons_self)
  cases present : Entries.has g.modules name with
  | true =>
    -- a name that is loaded is passed, and it is a key, so this look would not fail
    obtain ⟨entry, -, same⟩ := Entries.has_iff.1 present
    obtain ⟨k, -, isKey⟩ := Value.same_iff.1 same
    simp [Gathering.look, present, isKey] at failed
  | false =>
    have unnamed : Module.last? named name = none := gathers.last?_eq_none present
    obtain ⟨s, rfl⟩ := tidy.text reached unnamed
    refine ⟨.text s, reached, unnamed, ?_⟩
    cases searched : library.search (.text s) with
    | error other =>
      obtain rfl : other = fault := by simpa [Gathering.look, present, searched] using failed
      exact .inl rfl
    | ok result =>
      cases result with
      | some file =>
        obtain ⟨place, found⟩ := file
        obtain ⟨m, rfl, same⟩ := tidy.found reached unnamed searched
        have isText : m.name = .text s := Value.eq_text_of_same same
        have looked : (look library { g with pending := pending } (.text s)).outcome = .ok _ :=
          look_of_search rfl present searched (Module.isNamed_of_text isText)
            (by simpa [isText] using present)
        cases failed.symm.trans looked
      | none =>
        cases standard : Entries.find? Standard.modules (.text s) with
        | some m =>
          simp [Gathering.look, present, searched, standard] at failed
        | none =>
          refine .inr ⟨by simp [Library.define, unnamed, searched, standard], ?_⟩
          simpa [Gathering.look, present, searched, standard, Journaled.raise, eq_comm] using failed

/-- A gathering of modules that are found under their names comes to an end. -/
private theorem finish_cases (tidy : library.Tidy named) : ∃ last, Gathers library named last ∧
    (last.pending = [] ∧ (finish library (start named)).outcome = .ok last.modules ∨
      ∃ fault, last.Fails library fault ∧
        (finish library (start named)).outcome = .error fault) := by
  have steady {g : Gathering} (gathers : Gathers library named g) :
      ∀ place ∈ g.read, ¬ library.Unsteady place := by
    rintro place isRead ⟨name, found, searched, m, member, -, unsteady⟩
    obtain ⟨n, found', reached, unnamed, searched', -⟩ := gathers.read place isRead
    obtain rfl := library.found_eq searched searched'
    obtain ⟨m', rfl, same⟩ := tidy.found reached unnamed searched'
    obtain ⟨s, rfl⟩ := tidy.text reached unnamed
    rw [List.mem_singleton.1 member, Value.eq_text_of_same same] at unsteady
    exact unsteady (Value.lasts_text s)
  have gathers : Gathers library named (start named) := gathers_start tidy.isNamed
  obtain ⟨_, last, _, inv, ends⟩ :=
    finish_ends (fun gathers => gathers.round tidy) steady gathers rfl gathers.distinct
  exact ⟨last, inv, ends⟩

/-- What a gathering gives in the end: each reached name stands for the module that is loaded under
it, and nothing else is loaded. -/
theorem finish_closed (tidy : library.Tidy named)
    (finished : (finish library (start named)).outcome = .ok modules) :
    Entries.Distinct modules ∧
    (∀ {n m}, Entries.find? modules n = some m →
      ∃ k, k.same n ∧ library.Reaches named k ∧ library.define named k = .ok (some m)) ∧
    ∀ {n}, library.Reaches named n →
      ∃ m, library.define named n = .ok (some m) ∧ Entries.find? modules n = some m := by
  obtain ⟨last, gathers, ⟨-, again⟩ | ⟨_, -, failed⟩⟩ := finish_cases tidy
  case inr => cases finished.symm.trans failed
  obtain rfl := Except.ok.inj (finished.symm.trans again)
  have defined {n : Value} (reached : library.Reaches named n)
      (present : Entries.has last.modules n) :
      ∃ m, library.define named n = .ok (some m) ∧ Entries.find? last.modules n = some m := by
    obtain ⟨m, found⟩ := Option.isSome_iff_exists.1 (Entries.find?_isSome.trans present)
    obtain ⟨k, same, reached', defined⟩ := gathers.sound found
    exact ⟨m, (tidy.define_congr reached' reached same).symm.trans defined, found⟩
  refine ⟨gathers.distinct, gathers.sound, fun {n} reached => defined reached ?_⟩
  induction reached with
  | named member => exact gathers.roots _ member
  | @imported n k m reached stands imported present =>
    obtain ⟨m', stands', found⟩ := defined reached present
    obtain rfl : m = m' := by simpa using stands.symm.trans stands'
    obtain ⟨known, _, entry⟩ := Entries.mem_of_find? found
    obtain loaded | ⟨place, files, searched, strays⟩ :=
      (covers_start library.Strays named).finish finished entry imported
    · exact loaded
    · -- a file found for a reached name holds its module, so the name cannot have gone astray
      by_contra absent
      have unnamed : Module.last? named k = none :=
        gathers.last?_eq_none (Bool.not_eq_true _ ▸ absent)
      obtain ⟨m', rfl, same⟩ := tidy.found (.imported reached stands imported) unnamed searched
      simp [strays m' List.mem_cons_self] at same

/-- A gathering fails if a reached name stands for nothing or the search for one fails. -/
theorem finish_fails (tidy : library.Tidy named)
    (failed : (finish library (start named)).outcome = .error fault) :
    ∃ n, library.Reaches named n ∧ Module.last? named n = none ∧
      (library.search n = .error fault ∨ library.define named n = .ok none ∧
        fault = .problem (.importNotFound n library.places)) := by
  obtain ⟨last, gathers, ⟨-, finished⟩ | ⟨_, fails, failed'⟩⟩ := finish_cases tidy
  · cases failed.symm.trans finished
  · obtain rfl := Except.error.inj (failed.symm.trans failed')
    exact gathers.fails tidy fails

end Gathering

end AdlTables
