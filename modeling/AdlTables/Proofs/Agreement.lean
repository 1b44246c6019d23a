import AdlTables.Proofs.Outcome
import AdlTables.Proofs.Sharing
import AdlTables.Value.Access

/-! # Readings that agree

Two readings agree if both give results that are related, or neither gives one. Where objects hold
related values under the same keys, and lists related items in turn, whoever asks them for their
parts gets related values.
-/

namespace AdlTables

variable {α α' β β' : Type}

/-- Related results, or two failures. -/
inductive Agree (r : α → β → Prop) : Except Fault α → Except Fault β → Prop
  | ok {a : α} {b : β} : r a b → Agree r (.ok a) (.ok b)
  | error (f f' : Fault) : Agree r (.error f) (.error f')

namespace Agree

variable {r : α → α' → Prop} {s : β → β' → Prop}

theorem refl {r : α → α → Prop} (same : ∀ a, r a a) (x : Except Fault α) : Agree r x x := by
  cases x with
  | ok a => exact .ok (same a)
  | error f => exact .error f f

theorem bind {x : Except Fault α} {x' : Except Fault α'} {f : α → Except Fault β}
    {f' : α' → Except Fault β'} (first : Agree r x x')
    (rest : ∀ a a', r a a' → Agree s (f a) (f' a')) : Agree s (x >>= f) (x' >>= f') := by
  cases first with
  | ok related => exact rest _ _ related
  | error f f' => exact .error f f'

/-- Where the results are equal so is what goes on from them. -/
theorem bind_eq {x x' : Except Fault α} {f : α → Except Fault β} {f' : α → Except Fault β'}
    (first : Agree Eq x x') (rest : ∀ a, Agree s (f a) (f' a)) : Agree s (x >>= f) (x' >>= f') :=
  first.bind fun a _ same => same ▸ rest a

/-- The same step may be followed by others that agree. -/
theorem bind_same (x : Except Fault α) {f : α → Except Fault β} {f' : α → Except Fault β'}
    (rest : ∀ a, Agree s (f a) (f' a)) : Agree s (x >>= f) (x >>= f') :=
  (refl (r := Eq) (fun _ => rfl) x).bind_eq rest

/-- Readings agree if they agree once a first reading has succeeded, without which both fail. -/
theorem of_first {x x' : Except Fault α} {y : Except Fault β} {y' : Except Fault β'}
    (first : Agree Eq x x') (failed : ∀ f, x = .error f → ∃ f', y = .error f')
    (failed' : ∀ f, x' = .error f → ∃ f', y' = .error f')
    (rest : ∀ a, x = .ok a → x' = .ok a → Agree s y y') : Agree s y y' := by
  cases first with
  | ok same => exact rest _ rfl (same ▸ rfl)
  | error f f' =>
    obtain ⟨_, left⟩ := failed f rfl
    obtain ⟨_, right⟩ := failed' f' rfl
    rw [left, right]
    exact .error _ _

theorem mapM {xs : List α} {xs' : List α'} {f : α → Except Fault β} {f' : α' → Except Fault β'}
    (related : List.Forall₂ r xs xs') (each : ∀ x x', r x x' → Agree s (f x) (f' x')) :
    Agree (List.Forall₂ s) (xs.mapM f) (xs'.mapM f') := by
  induction related with
  | nil => exact .ok .nil
  | cons first _ ih =>
    rw [List.mapM_cons, List.mapM_cons]
    exact (each _ _ first).bind fun _ _ one => ih.bind fun _ _ others => .ok (.cons one others)

theorem mapM_eq {xs : List α} {xs' : List α'} {f : α → Except Fault β} {f' : α' → Except Fault β}
    (related : List.Forall₂ r xs xs') (each : ∀ x x', r x x' → Agree Eq (f x) (f' x')) :
    Agree Eq (xs.mapM f) (xs'.mapM f') := by
  have steps := mapM related each
  rwa [List.forall₂_eq_eq_eq] at steps

/-- Readings agree on equal results if one gives a result exactly where the other gives it. -/
theorem iff_eq {x x' : Except Fault α} : Agree Eq x x' ↔ ∀ a, x = .ok a ↔ x' = .ok a := by
  constructor
  · rintro (same | _) a
    · rw [same]
    · exact iff_of_false nofun nofun
  · intro both
    cases x with
    | ok a =>
      rw [(both a).1 rfl]
      exact .ok rfl
    | error f =>
      cases x' with
      | ok a => cases (both a).2 rfl
      | error f' => exact .error f f'

end Agree

namespace Value

/-- Related values in which nothing dangles. -/
structure Parts (r : Value → Value → Prop) (a b : Value) : Prop where
  related : r a b
  left : a.IsWhole
  right : b.IsWhole

/-- Objects with the same keys in the same order, and with related values under each of them. -/
def Objects (r : Value → Value → Value → Prop) (v w : Value) : Prop :=
  ∃ entries entries', v.bare = mapping entries ∧ w.bare = mapping entries' ∧
    List.Forall₂ (fun e e' => e.1 = e'.1 ∧ r e.1 e.2 e'.2) entries entries'

/-- Lists with related items in turn. -/
def Lists (r : Value → Value → Prop) (v w : Value) : Prop :=
  ∃ items items', v.bare = list items ∧ w.bare = list items' ∧ List.Forall₂ r items items'

variable {v w : Value} {key : String} {es es' : List (Value × Value)}

theorem eq_text_of_isText (isText : v.isText key) : v = text key := by
  cases v with
  | text s => exact congrArg text (beq_iff_eq.1 isText)
  | _ => cases isText

theorem mem_of_find? (found : find? es key = some v) : (text key, v) ∈ es := by
  obtain ⟨⟨known, _⟩, hit, rfl⟩ := Option.map_eq_some_iff.1 found
  obtain rfl : known = text key := eq_text_of_isText (by simpa using List.find?_some hit)
  exact List.mem_of_find?_eq_some hit

theorem find?_related {r : Value → Value → Value → Prop}
    (related : List.Forall₂ (fun e e' => e.1 = e'.1 ∧ r e.1 e.2 e'.2) es es') (key : String) :
    Option.Rel (r (text key)) (find? es key) (find? es' key) := by
  induction related with
  | nil => exact .none
  | @cons e e' _ _ first _ ih =>
    obtain ⟨known, value⟩ := e
    obtain ⟨_, value'⟩ := e'
    obtain ⟨rfl, under⟩ := first
    simp only [find?, List.find?_cons] at ih ⊢
    split
    · rename_i hit
      exact .some (eq_text_of_isText hit ▸ under)
    · exact ih

theorem IsWhole.under (isWhole : v.IsWhole) (isMapping : v.bare = mapping es)
    {known value : Value} (member : (known, value) ∈ es) : value.IsWhole :=
  isWhole.bare.of_mem_inside (isMapping ▸ List.mem_map_of_mem member)

theorem IsWhole.item (isWhole : v.IsWhole) {items : List Value} (isList : v.bare = list items)
    (member : w ∈ items) : w.IsWhole :=
  isWhole.bare.of_mem_inside (isList ▸ member)

/-- What two lists of values relate are parts of whole values if the values are. -/
theorem forall₂_and_of_mem {r : α → β → Prop} {p : α → Prop} {q : β → Prop} {xs : List α}
    {ys : List β} (related : List.Forall₂ r xs ys) (left : ∀ x ∈ xs, p x) (right : ∀ y ∈ ys, q y) :
    List.Forall₂ (fun x y => r x y ∧ p x ∧ q y) xs ys := by
  induction related with
  | nil => exact .nil
  | cons first _ ih =>
    rw [List.forall_mem_cons] at left right
    exact .cons ⟨first, left.1, right.1⟩ (ih left.2 right.2)

/-- What may be there is related if the two things that are there are. -/
theorem rel_of_eq_some {r s : α → β → Prop} {a : Option α} {b : Option β}
    (related : Option.Rel r a b) (follows : ∀ x, a = some x → ∀ y, b = some y → r x y → s x y) :
    Option.Rel s a b := by
  cases related with
  | none => exact .none
  | some both => exact .some (follows _ rfl _ rfl both)

/-- A default that stands for itself may fill in for what is not there. -/
theorem Parts.getD {r : Value → Value → Prop} {a b : Option Value}
    (related : Option.Rel (Parts r) a b) {default : Value} (same : r default default)
    (isWhole : default.IsWhole) :
    Parts r (a.getD default) (b.getD default) := by
  cases related with
  | none => exact ⟨same, isWhole, isWhole⟩
  | some parts => exact parts

namespace Objects

variable {r : Value → Value → Value → Prop}

theorem option (objects : Objects r v w) (left : v.IsWhole) (right : w.IsWhole) (key : String) :
    Agree (Option.Rel (Parts (r (text key)))) (v.option key) (w.option key) := by
  obtain ⟨es, es', isMapping, isMapping', related⟩ := objects
  simp only [Value.option, isMapping, isMapping']
  refine .ok (rel_of_eq_some (find?_related related key) fun a found b found' under => ?_)
  exact ⟨under, left.under isMapping (mem_of_find? found),
    right.under isMapping' (mem_of_find? found')⟩

theorem member (objects : Objects r v w) (left : v.IsWhole) (right : w.IsWhole) (key : String) :
    Agree (Parts (r (text key))) (v.member key) (w.member key) := by
  have found := objects.option left right key
  obtain ⟨es, es', isMapping, isMapping', -⟩ := objects
  simp only [Value.option, isMapping, isMapping'] at found
  simp only [Value.member, isMapping, isMapping']
  generalize find? es key = a, find? es' key = b at found
  cases found with
  | ok under =>
    cases under with
    | none => exact .error _ _
    | some parts => exact .ok parts

theorem entries (objects : Objects r v w) (left : v.IsWhole) (right : w.IsWhole) :
    Agree (List.Forall₂ fun e e' => e.1 = e'.1 ∧ Parts (r e.1) e.2 e'.2) v.entries w.entries := by
  obtain ⟨es, es', isMapping, isMapping', related⟩ := objects
  rw [Value.entries, Value.entries, isMapping, isMapping']
  have parts := forall₂_and_of_mem related (fun e inside => left.under isMapping inside)
    fun e inside => right.under isMapping' inside
  exact .ok (parts.imp fun _ _ ⟨⟨sameKey, under⟩, whole, whole'⟩ => ⟨sameKey, under, whole, whole'⟩)

end Objects

theorem Lists.items {r : Value → Value → Prop} (lists : Lists r v w) (left : v.IsWhole)
    (right : w.IsWhole) : Agree (List.Forall₂ (Parts r)) v.items w.items := by
  obtain ⟨items, items', isList, isList', related⟩ := lists
  rw [Value.items, Value.items, items?, items?, isList, isList']
  have parts := forall₂_and_of_mem related (fun v inside => left.item isList inside)
    fun v inside => right.item isList' inside
  exact .ok (parts.imp fun _ _ ⟨both, whole, whole'⟩ => ⟨both, whole, whole'⟩)

end Value

end AdlTables
