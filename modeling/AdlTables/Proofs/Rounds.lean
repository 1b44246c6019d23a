import AdlTables.Proofs.Gathering
import Mathlib.Data.List.Flatten
import Mathlib.Data.List.Perm.Subperm

/-! # Rounds of a gathering

A round can make more names pending than it passes, many rounds can read one file, and a name whose
file holds a module called otherwise is looked for again each time that it is imported. But all
names that become pending on the way are imports of a module that is taken up just then. Where names
last, reading a file again gives the same names, and no module of it is taken up twice. A file is
unsteady if it holds a module that imports something under a name that is another in each reading.
Only such files can keep a gathering going: it goes on for ever exactly if it reads one of them more
often than any number of times.
-/

namespace AdlTables

/-- The file at a place, which is found for a name, holds a module that imports something and has a
name that does not last. -/
def Library.Unsteady (library : Library) (place : Path) : Prop :=
  ∃ name found, library.search name = .ok (some (place, found)) ∧
    ∃ m ∈ found, m.imports ≠ [] ∧ ¬ m.name.Lasts

/-- The imports of all modules that a library can give. -/
def Library.imports (library : Library) : List Value :=
  library.stock.flatMap Module.imports

namespace Gathering

variable {library : Library} {g g' g'' : Gathering} {n k : Nat} {sources sources' : List Module}
  {again again' : List Path} {place : Path}

/-- What a number of rounds comes to: they pass a name each, and what becomes pending is imported by
modules from the stock that are taken up under their names, or comes from unsteady files. -/
structure Progress (library : Library) (g : Gathering) (n : Nat) (g' : Gathering)
    (sources : List Module) (again : List Path) : Prop where
  modules : ∃ more, g'.modules = g.modules ++ more ∧
    (sources.map Module.name).Sublist (Entries.keys more)
  distinct : Entries.Distinct g.modules → Entries.Distinct g'.modules
  stocked : sources ⊆ library.stock
  named : ∀ m ∈ sources, m.name.key?.isSome
  read : ∃ more, g'.read = more ++ g.read ∧ again.Sublist more
  unsteady : ∀ place ∈ again, library.Unsteady place
  count : n + g'.pending.length ≤ g.pending.length + (sources.flatMap Module.imports).length +
    again.length * library.imports.length

theorem Progress.refl (library : Library) (g : Gathering) : Progress library g 0 g [] [] where
  modules := ⟨[], by simp, .refl []⟩
  distinct := id
  stocked := List.nil_subset _
  named := nofun
  read := ⟨[], rfl, .refl []⟩
  unsteady := nofun
  count := by simp

theorem Progress.trans (first : Progress library g n g' sources again)
    (second : Progress library g' k g'' sources' again') :
    Progress library g (n + k) g'' (sources ++ sources') (again' ++ again) where
  modules := by
    obtain ⟨more, eq, sub⟩ := first.modules
    obtain ⟨more', eq', sub'⟩ := second.modules
    refine ⟨more ++ more', by rw [eq', eq, List.append_assoc], ?_⟩
    rw [Entries.keys, List.map_append, List.map_append]
    exact sub.append sub'
  distinct := fun before => second.distinct (first.distinct before)
  stocked := List.append_subset.2 ⟨first.stocked, second.stocked⟩
  named := List.forall_mem_append.2 ⟨first.named, second.named⟩
  read := by
    obtain ⟨more, eq, sub⟩ := first.read
    obtain ⟨more', eq', sub'⟩ := second.read
    exact ⟨more' ++ more, by rw [eq', eq, List.append_assoc], sub'.append sub⟩
  unsteady := List.forall_mem_append.2 ⟨second.unsteady, first.unsteady⟩
  count := by
    have passed := first.count
    have passed' := second.count
    rw [List.flatMap_append, List.length_append, List.length_append, Nat.add_mul]
    omega

/-- Each module of a steady file that imports something is taken up once. -/
theorem Progress.nodup (progress : Progress library g n g' sources again)
    (distinct : Entries.Distinct g.modules) : sources.Nodup := by
  obtain ⟨more, eq, sub⟩ := progress.modules
  have apart := progress.distinct distinct
  rw [eq, Entries.distinct_iff_keys, Entries.keys, List.map_append] at apart
  have names := List.pairwise_map.1 ((List.pairwise_append.1 apart).2.1.sublist sub)
  refine names.imp_of_mem fun {m m'} member _ unlike => ?_
  rintro rfl
  have same := Value.same_self (Option.isSome_iff_ne_none.1 (progress.named m member))
  simp [same] at unlike

/-- The modules that import nothing add nothing to what modules import in a reading. -/
private theorem length_imports (r : Reading) (ms : List Module) :
    ((ms.map (Module.inReading r)).flatMap Module.imports).length =
      ((ms.filter (!·.imports.isEmpty)).flatMap Module.imports).length := by
  induction ms with
  | nil => rfl
  | cons m rest ih =>
    rw [List.map_cons, List.flatMap_cons, List.length_append, ih, Module.imports_inReading,
      List.length_map, List.filter_cons]
    cases imports : m.imports <;> simp [imports, Nat.add_right_comm]

/-- Where names last the modules that import something stand under the names that they have before
the reading. -/
private theorem sublist_keys_of_steady {name : Value} {found chosen : List Module}
    (steady : ¬ library.Unsteady place) (searched : library.search name = .ok (some (place, found)))
    (sub : chosen.Sublist found) (r : Reading) :
    ((chosen.filter (!·.imports.isEmpty)).map Module.name).Sublist
      (Entries.keys ((chosen.map (Module.inReading r)).map fun m => (m.name, m))) := by
  have names : (chosen.filter (!·.imports.isEmpty)).map Module.name =
      (chosen.filter (!·.imports.isEmpty)).map fun m => (m.inReading r).name := by
    refine List.map_congr_left fun m member => ?_
    obtain ⟨isChosen, imports⟩ := List.mem_filter.1 member
    by_contra unlike
    exact steady ⟨name, found, searched, m, sub.subset isChosen, by simpa using imports,
      fun lasts => unlike (lasts r).symm⟩
  have keys : Entries.keys ((chosen.map (Module.inReading r)).map fun m => (m.name, m)) =
      chosen.map fun m => (m.inReading r).name := by
    simp [Entries.keys]
  rw [names, keys]
  exact List.filter_sublist.map _

/-- A round takes up modules of the file that is found, or a standard module, or nothing. -/
theorem Round.progress (round : Round library g g') :
    ∃ sources again, Progress library g 1 g' sources again := by
  obtain ⟨name, pending, next, looked⟩ := round
  obtain ⟨taken, read, rfl, distinct, reason⟩ := look_eq_ok looked
  obtain ⟨-, rfl, rfl⟩ | ⟨absent, ⟨place, found, chosen, searched, sub, rfl, rfl, present⟩ |
    ⟨m, -, standard, rfl, rfl⟩⟩ := reason
  · refine ⟨[], [], ⟨[], by simp [take], .refl []⟩, distinct, List.nil_subset _, nofun,
      ⟨[], rfl, .refl []⟩, nofun, ?_⟩
    simp [take, next, Nat.add_comm]
  · have imports := length_imports (g.reading place) chosen
    have active : (chosen.filter (!·.imports.isEmpty)).Sublist found :=
      List.filter_sublist.trans sub
    by_cases unsteady : library.Unsteady place
    · -- how often such a file is read has no bound, so what it adds is counted apart
      refine ⟨[], [place], ⟨_, rfl, List.nil_sublist _⟩, distinct, List.nil_subset _, nofun,
        ⟨[place], rfl, .refl _⟩, by simpa using unsteady, ?_⟩
      have within := ((active.trans (library.stocked searched)).flatMap Module.imports).length_le
      simp only [take, List.length_append, List.length_reverse, next, List.length_cons, reading,
        Library.imports, List.flatMap_nil, List.length_nil, Nat.one_mul, Nat.zero_add]
        at imports within ⊢
      omega
    · refine ⟨chosen.filter (!·.imports.isEmpty), [], ⟨_, rfl, ?_⟩, distinct,
        fun m member => (library.stocked searched).subset (active.subset member),
        fun m member => ?_, ⟨[place], rfl, List.nil_sublist _⟩, nofun, ?_⟩
      · exact sublist_keys_of_steady unsteady searched sub _
      · obtain ⟨_, -, same⟩ := Entries.has_iff.1 (present m (active.subset member))
        obtain ⟨_, -, isKey⟩ := Value.same_iff.1 same
        simpa using Option.isSome_of_eq_some isKey
      · simp only [take, List.length_append, List.length_reverse, next, List.length_cons, reading,
          List.length_nil, Nat.zero_mul] at imports ⊢
        omega
  · obtain ⟨-, imports⟩ := Standard.of_find? standard
    refine ⟨[], [], ⟨_, rfl, List.nil_sublist _⟩, distinct, List.nil_subset _, nofun,
      ⟨[], rfl, .refl []⟩, nofun, ?_⟩
    simp [take, imports, next, Nat.add_comm]

theorem Rounds.progress (rounds : Rounds library g n g') :
    ∃ sources again, Progress library g n g' sources again := by
  induction rounds with
  | start => exact ⟨[], [], .refl library g⟩
  | next _ round ih =>
    obtain ⟨sources, again, first⟩ := ih
    obtain ⟨sources', again', second⟩ := round.progress
    exact ⟨sources ++ sources', again' ++ again, first.trans second⟩

/-- Rounds and the names that are pending after them are no more than the names pending before and
the imports in the stock, these once and once more for each reading of an unsteady file. -/
theorem Rounds.bounded (rounds : Rounds library g n g') (distinct : Entries.Distinct g.modules) :
    ∃ again : List Path, again.Sublist g'.read ∧ (∀ place ∈ again, library.Unsteady place) ∧
      n + g'.pending.length ≤ g.pending.length + (again.length + 1) * library.imports.length := by
  obtain ⟨sources, again, progress⟩ := rounds.progress
  obtain ⟨chosen, perm, sub⟩ :=
    List.subperm_of_subset (progress.nodup distinct) progress.stocked
  -- the sources are a part of the stock, each module once, and so are their imports
  have fewer : (sources.flatMap Module.imports).length ≤ library.imports.length := by
    rw [Library.imports, ← (perm.flatMap_right _).length_eq]
    exact (sub.flatMap _).length_le
  obtain ⟨more, read, isSub⟩ := progress.read
  refine ⟨again, read ▸ isSub.trans (List.sublist_append_left ..), progress.unsteady, ?_⟩
  have count := progress.count
  rw [Nat.add_mul, Nat.one_mul]
  omega

/-- Names that are pending were so at the start, or modules in the stock import them in some
reading; and files that were read are found for such names. -/
structure Origin (library : Library) (start g : Gathering) : Prop where
  pending : ∀ n ∈ g.pending, n ∈ start.pending ∨ ∃ k ∈ library.imports, ∃ r, k.inReading r = n
  read : ∀ place ∈ g.read, ∃ n ∈ start.pending ++ library.imports, ∃ found,
    library.search n = .ok (some (place, found))

private theorem origin_start (unread : g.read = []) : Origin library g g where
  pending _ waiting := .inl waiting
  read := by simp [unread]

theorem Origin.round {start : Gathering} (origin : Origin library start g)
    (round : Round library g g') : Origin library start g' := by
  obtain ⟨name, isPending, pending, read⟩ := round.origin
  constructor
  · intro n waiting
    obtain before | ⟨place, found, searched, m, isFound, k, isImport, r, rfl⟩ := pending n waiting
    · exact origin.pending n before
    · have inStock := (library.stocked searched).subset isFound
      exact .inr ⟨k, List.mem_flatMap.2 ⟨m, inStock, isImport⟩, r, rfl⟩
  · intro place isRead
    obtain before | ⟨found, searched⟩ := read place isRead
    · exact origin.read place before
    · refine ⟨name, ?_, found, searched⟩
      obtain waiting | ⟨k, isImport, r, rfl⟩ := origin.pending name isPending
      · exact List.mem_append_left _ waiting
      · have isText : k.text?.isSome := by simpa using library.isText searched
        rw [Value.lasts_of_text? isText r]
        exact List.mem_append_right _ isImport

/-- Where each of finitely many places occurs only so often in some lists, so do all together. -/
private theorem exists_bound {S : List Path → Prop} {P : Path → Prop} (places : List Path)
    (each : ∀ p ∈ places, P p → ∃ k, ∀ x, S x → x.count p ≤ k) :
    ∃ k, ∀ x, S x → ∀ sub : List Path, sub.Sublist x → (∀ p ∈ sub, p ∈ places ∧ P p) →
      sub.length ≤ k := by
  induction places with
  | nil =>
    refine ⟨0, fun x _ sub _ among => ?_⟩
    rw [List.eq_nil_iff_forall_not_mem.2 fun p member => nomatch (among p member).1]
    exact Nat.le_refl 0
  | cons p rest ih =>
    obtain ⟨k', few⟩ := ih fun q member => each q (List.mem_cons_of_mem _ member)
    have here : ∃ k, ∀ x, S x → P p → x.count p ≤ k := by
      by_cases holds : P p
      · obtain ⟨k, bound⟩ := each p List.mem_cons_self holds
        exact ⟨k, fun x given _ => bound x given⟩
      · exact ⟨0, fun _ _ given => (holds given).elim⟩
    obtain ⟨k, bound⟩ := here
    refine ⟨k + k', fun x given sub isSub among => ?_⟩
    have apart : sub.length = sub.count p + (sub.filter fun q => !(q == p)).length := by
      rw [List.length_eq_length_filter_add (· == p), List.count, List.countP_eq_length_filter]
    have counted : sub.count p ≤ k := by
      by_cases member : p ∈ sub
      · exact Nat.le_trans (isSub.count_le p) (bound x given (among p member).2)
      · simp [List.count_eq_zero.2 member]
    have others : ∀ q ∈ sub.filter fun q => !(q == p), q ∈ rest ∧ P q := by
      intro q member
      obtain ⟨isIn, differs⟩ := List.mem_filter.1 member
      have differs : q ≠ p := by simpa using differs
      exact ⟨List.mem_of_ne_of_mem differs (among q isIn).1, (among q isIn).2⟩
    have remaining := few x given _ (List.filter_sublist.trans isSub) others
    omega

theorem Round.count_read_le (round : Round library g g') (place : Path) :
    g'.read.count place ≤ g.read.count place + 1 := by
  obtain ⟨name, pending, -, looked⟩ := round
  obtain ⟨taken, read, rfl, -, reason⟩ := look_eq_ok looked
  obtain ⟨-, -, rfl⟩ | ⟨-, ⟨found, _, _, _, _, _, rfl, -⟩ | ⟨_, _, _, _, rfl⟩⟩ := reason
  · exact Nat.le_succ _
  · simp only [take, List.count_cons]
    split <;> omega
  · exact Nat.le_succ _

theorem Rounds.count_read_le (rounds : Rounds library g n g') (place : Path) :
    g'.read.count place ≤ g.read.count place + n := by
  induction rounds with
  | start => exact Nat.le_refl _
  | next _ round ih =>
    have last := round.count_read_le place
    omega

/-- A gathering goes on for ever exactly if it reads an unsteady file more often than any number of
times. -/
theorem endless_iff (unread : g.read = []) (distinct : Entries.Distinct g.modules) :
    (∀ n, ∃ last, Rounds library g n last) ↔ ∃ place, library.Unsteady place ∧
      ∀ k, ∃ n last, Rounds library g n last ∧ k ≤ last.read.count place := by
  constructor
  · intro endless
    by_contra few
    simp only [not_exists, not_and, not_forall, Nat.not_le] at few
    -- the files that can be read are finitely many, since they are found for finitely many names
    let places := (g.pending ++ library.imports).filterMap fun n =>
      ((library.search n).toOption.bind id).map Prod.fst
    obtain ⟨k, bound⟩ := exists_bound
      (S := fun read => ∃ n last, Rounds library g n last ∧ last.read = read)
      (P := library.Unsteady) places fun place _ unsteady => by
        obtain ⟨k, fewer⟩ := few place unsteady
        refine ⟨k, ?_⟩
        rintro _ ⟨n, last, rounds, rfl⟩
        exact Nat.le_of_lt (fewer n last rounds)
    obtain ⟨last, rounds⟩ := endless (g.pending.length + (k + 1) * library.imports.length + 1)
    obtain ⟨again, sub, unsteady, counted⟩ := rounds.bounded distinct
    have origin := rounds.keeps Origin.round (origin_start unread)
    have among : ∀ p ∈ again, p ∈ places ∧ library.Unsteady p := by
      intro p member
      obtain ⟨n, isName, found, searched⟩ := origin.read p (sub.subset member)
      refine ⟨List.mem_filterMap.2 ⟨n, isName, ?_⟩, unsteady p member⟩
      simp [searched, Except.toOption]
    have few := Nat.mul_le_mul_right library.imports.length
      (Nat.succ_le_succ (bound _ ⟨_, last, rounds, rfl⟩ again sub among))
    simp only [Nat.succ_eq_add_one] at few
    omega
  · rintro ⟨place, -, often⟩ n
    obtain ⟨n', last, rounds, many⟩ := often n
    have counted := rounds.count_read_le place
    exact rounds.exists_of_le (by simpa [unread] using Nat.le_trans many counted)

/-- A gathering that reads no unsteady file comes to an end. -/
theorem finish_ends {Inv : Gathering → Prop}
    (kept : ∀ {g g'}, Inv g → Round library g g' → Inv g')
    (steady : ∀ {g}, Inv g → ∀ place ∈ g.read, ¬ library.Unsteady place) (start : Inv g)
    (unread : g.read = []) (distinct : Entries.Distinct g.modules) : ∃ n last,
    Rounds library g n last ∧ Inv last ∧
      (last.pending = [] ∧ (finish library g).outcome = .ok last.modules ∨
        ∃ fault, last.Fails library fault ∧ (finish library g).outcome = .error fault) := by
  obtain ⟨n, last, rounds, ends⟩ | ⟨-, endless⟩ := endsWith_or_endless library g
  · exact ⟨n, last, rounds, rounds.keeps kept start, ends⟩
  · obtain ⟨place, unsteady, often⟩ := (endless_iff unread distinct).1 endless
    obtain ⟨n, last, rounds, once⟩ := often 1
    exact (steady (rounds.keeps kept start) place (List.count_pos_iff.1 once) unsteady).elim

end Gathering

end AdlTables
