import AdlTables.Journal
import Mathlib.Data.List.Forall2

/-! # Outcomes

What the outcome of a computation says of its parts. A sequence of steps succeeds if every step
does, and a list of steps relates each item to its result. Journals are left out: `outcome` maps
every construction of computations to the same construction without a journal.
-/

namespace AdlTables

/-- An item of the second of two lists that are related goes back to one of the first. -/
theorem exists_of_forall₂ {α β : Type} {r : α → β → Prop} {xs : List α} {ys : List β}
    (related : List.Forall₂ r xs ys) {y : β} (member : y ∈ ys) : ∃ x ∈ xs, r x y := by
  induction related with
  | nil => cases member
  | cons first _ ih =>
    obtain rfl | later := List.mem_cons.1 member
    · exact ⟨_, List.mem_cons_self, first⟩
    · exact (ih later).imp fun _ found => found.imp_left (List.mem_cons_of_mem _)

/-- Lists that are related item by item are so by every relation that follows for their items. -/
theorem forall₂_imp_of_mem {α β : Type} {r s : α → β → Prop} {xs : List α} {ys : List β}
    (related : List.Forall₂ r xs ys) (follows : ∀ x ∈ xs, ∀ y, r x y → s x y) :
    List.Forall₂ s xs ys := by
  induction related with
  | nil => exact .nil
  | cons first _ ih =>
    exact .cons (follows _ List.mem_cons_self _ first)
      (ih fun x member => follows x (List.mem_cons_of_mem _ member))

namespace Outcome

variable {ε α β : Type}

@[simp] theorem ok_bind (a : α) (f : α → Except ε β) : (Except.ok a >>= f) = f a := rfl

@[simp] theorem error_bind (e : ε) (f : α → Except ε β) : (Except.error e >>= f) = .error e := rfl

@[simp] theorem pure_eq_ok (a : α) : (pure a : Except ε α) = .ok a := rfl

theorem bind_eq_ok {x : Except ε α} {f : α → Except ε β} {b : β} :
    (x >>= f) = .ok b ↔ ∃ a, x = .ok a ∧ f a = .ok b := by
  cases x <;> simp

theorem bind_eq_error {x : Except ε α} {f : α → Except ε β} {e : ε} :
    (x >>= f) = .error e ↔ x = .error e ∨ ∃ a, x = .ok a ∧ f a = .error e := by
  cases x <;> simp

theorem map_eq_ok {f : α → β} {x : Except ε α} {b : β} :
    f <$> x = .ok b ↔ ∃ a, x = .ok a ∧ f a = b := by
  cases x <;> simp [Functor.map, Except.map]

/-- A list of steps succeeds with exactly the results of the steps. -/
theorem mapM_eq_ok {f : α → Except ε β} {xs : List α} {ys : List β} :
    xs.mapM f = .ok ys ↔ List.Forall₂ (fun x y => f x = .ok y) xs ys := by
  induction xs generalizing ys with
  | nil => cases ys <;> simp
  | cons x xs ih =>
    simp only [List.mapM_cons, bind_eq_ok, ih, pure_eq_ok, Except.ok.injEq,
      List.forall₂_cons_left_iff]
    constructor
    · rintro ⟨y, first, rest, others, rfl⟩
      exact ⟨y, rest, first, others, rfl⟩
    · rintro ⟨y, rest, first, others, rfl⟩
      exact ⟨y, first, rest, others, rfl⟩

/-- The results of a list of steps are those that its items give. -/
theorem mem_of_mapM {f : α → Except ε β} {xs : List α} {ys : List β} (steps : xs.mapM f = .ok ys)
    {y : β} : y ∈ ys ↔ ∃ x ∈ xs, f x = .ok y := by
  have related := mapM_eq_ok.1 steps
  clear steps
  induction related with
  | nil => simp
  | @cons x y' xs ys given _ ih => simp [ih, given, eq_comm]

/-- The items of a list of steps are paired with what they give. -/
theorem mem_zip_of_mapM {f : α → Except ε β} {xs : List α} {ys : List β}
    (steps : xs.mapM f = .ok ys) {x : α} {y : β} : (x, y) ∈ xs.zip ys ↔ x ∈ xs ∧ f x = .ok y := by
  have related := mapM_eq_ok.1 steps
  clear steps
  constructor
  · exact fun member => ⟨(List.of_mem_zip member).1, List.forall₂_zip related member⟩
  · rintro ⟨member, result⟩
    induction related with
    | nil => cases member
    | @cons x' y' xs ys given _ ih =>
      obtain rfl | later := List.mem_cons.1 member
      · obtain rfl := Except.ok.inj (given.symm.trans result)
        exact List.mem_cons_self
      · exact List.mem_cons_of_mem _ (ih later)

/-- Where a list of steps succeeds each of them does. -/
theorem exists_of_mapM {f : α → Except ε β} {xs : List α} {ys : List β} (steps : xs.mapM f = .ok ys)
    {x : α} (member : x ∈ xs) : ∃ y ∈ ys, f x = .ok y := by
  have related := mapM_eq_ok.1 steps
  clear steps
  induction related with
  | nil => cases member
  | cons given _ ih =>
    obtain rfl | later := List.mem_cons.1 member
    · exact ⟨_, List.mem_cons_self, given⟩
    · exact (ih later).imp fun _ found => found.imp_left (List.mem_cons_of_mem _)

/-- Where a list of steps fails one of them does. -/
theorem exists_of_mapM_eq_error {f : α → Except ε β} {xs : List α} {e : ε}
    (failed : xs.mapM f = .error e) : ∃ x ∈ xs, f x = .error e := by
  induction xs with
  | nil => cases failed
  | cons x xs ih =>
    rw [List.mapM_cons] at failed
    rcases bind_eq_error.1 failed with first | ⟨y, -, later⟩
    · exact ⟨x, List.mem_cons_self, first⟩
    · rcases bind_eq_error.1 later with rest | ⟨ys, -, done⟩
      · obtain ⟨x', member, failed⟩ := ih rest
        exact ⟨x', List.mem_cons_of_mem _ member, failed⟩
      · cases done

/-- A list of steps that each succeed succeeds. -/
theorem mapM_of_forall {f : α → Except ε β} {xs : List α} (each : ∀ x ∈ xs, ∃ y, f x = .ok y) :
    ∃ ys, xs.mapM f = .ok ys := by
  induction xs with
  | nil => exact ⟨[], rfl⟩
  | cons x xs ih =>
    obtain ⟨y, first⟩ := each x List.mem_cons_self
    obtain ⟨ys, rest⟩ := ih fun x' member => each x' (List.mem_cons_of_mem _ member)
    exact ⟨y :: ys, by simp [List.mapM_cons, first, rest]⟩

/-- A test of the result of a step, if it succeeds. -/
theorem any_toOption {x : Except ε α} {test : α → Bool} :
    x.toOption.any test ↔ ∃ a, x = .ok a ∧ test a := by
  cases x <;> simp [Except.toOption]

theorem toOption_eq_some {x : Except ε α} {a : α} : x.toOption = some a ↔ x = .ok a := by
  cases x <;> simp [Except.toOption]

/-- The results of a list of steps that succeeds are what its items give, one for each in order. -/
theorem map_toOption_of_mapM {f : α → Except ε β} {xs : List α} {ys : List β}
    (steps : xs.mapM f = .ok ys) : xs.map (fun x => (f x).toOption) = ys.map some := by
  have related := mapM_eq_ok.1 steps
  clear steps
  induction related with
  | nil => rfl
  | cons given _ ih => rw [List.map_cons, List.map_cons, ih, given]; rfl

end Outcome

namespace Journaled

variable {α β : Type}

@[simp] theorem outcome_map (f : α → β) (x : Journaled α) :
    (f <$> x).outcome = f <$> x.outcome := by
  obtain ⟨entries, outcome⟩ := x
  cases outcome <;> rfl

@[simp] theorem outcome_mapM (f : α → Journaled β) (xs : List α) :
    (xs.mapM f).outcome = xs.mapM fun x => (f x).outcome := by
  induction xs with
  | nil => rfl
  | cons x xs ih => simp only [List.mapM_cons, outcome_bind, outcome_pure, ih]; rfl

/-- Where steps one after another fail one of them does. -/
theorem exists_of_foldlM {f : β → α → Journaled β} {xs : List α} {b : β} {fault : Fault}
    (failed : (xs.foldlM f b).outcome = .error fault) :
    ∃ x ∈ xs, ∃ b', (f b' x).outcome = .error fault := by
  induction xs generalizing b with
  | nil => cases failed
  | cons x xs ih =>
    rw [List.foldlM_cons, outcome_bind] at failed
    rcases Outcome.bind_eq_error.1 failed with first | ⟨b', -, later⟩
    · exact ⟨x, List.mem_cons_self, b, first⟩
    · obtain ⟨x', member, failed⟩ := ih later
      exact ⟨x', List.mem_cons_of_mem _ member, failed⟩

end Journaled

end AdlTables
