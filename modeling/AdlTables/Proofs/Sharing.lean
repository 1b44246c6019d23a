import AdlTables.Value.Sharing
import Mathlib.Data.List.Basic

/-! # How deep readers go

A reader of a value looks at values directly inside it, opens those that are shared, and goes on. A
value may lead it back to itself, so it need not come to an end. Where it does it goes no deeper
than the value has parts: on its way down it never comes back to a shared value that it is reading,
because it would then have to come to its end there in fewer steps than it takes.
-/

namespace AdlTables.Value

variable {place other : Nat} {whole v c : Value}

@[simp] theorem tieItems_eq_map (items : List Value) :
    tieItems place whole items = items.map (tie place whole) := by
  induction items with
  | nil => rfl
  | cons v rest ih => rw [tieItems, ih, List.map_cons]

@[simp] theorem tieEntries_eq_map (entries : List (Value × Value)) :
    tieEntries place whole entries = entries.map fun e => (e.1, tie place whole e.2) := by
  induction entries with
  | nil => rfl
  | cons e rest ih => rw [tieEntries, ih, List.map_cons]

/-- The values directly inside a value: its items, or what stands under its keys. -/
def inside : Value → List Value
  | list items => items
  | mapping entries => entries.map (·.2)
  | _ => []

theorem size_pos (v : Value) : 0 < v.size := by
  cases v <;> simp only [size] <;> omega

private theorem size_le_sizeItems {items : List Value} (member : v ∈ items) :
    v.size ≤ sizeItems items := by
  induction items with
  | nil => cases member
  | cons first rest ih =>
    rw [sizeItems]
    rcases List.mem_cons.1 member with rfl | later
    · omega
    · have := ih later
      omega

private theorem size_le_sizeEntries {entries : List (Value × Value)}
    (member : v ∈ entries.map (·.2)) : v.size ≤ sizeEntries entries := by
  induction entries with
  | nil => cases member
  | cons first rest ih =>
    obtain ⟨key, w⟩ := first
    rw [sizeEntries]
    rcases List.mem_cons.1 member with rfl | later
    · omega
    · have := ih later
      omega

/-- What is inside a value has fewer parts. -/
theorem size_lt_of_mem_inside (member : c ∈ v.inside) : c.size < v.size := by
  cases v with
  | list items =>
    have : c.size ≤ sizeItems items := size_le_sizeItems member
    rw [size]
    omega
  | mapping entries =>
    have : c.size ≤ sizeEntries entries := size_le_sizeEntries member
    rw [size]
    omega
  | _ => cases member

private theorem mem_inside_tie (member : c ∈ (tie place whole v).inside) :
    (∃ part ∈ v.inside, tie place whole part = c) ∨ v = again place ∧ c ∈ whole.inside := by
  cases v with
  | list items =>
    rw [tie, tieItems_eq_map] at member
    exact .inl (List.mem_map.1 member)
  | mapping entries =>
    rw [tie, tieEntries_eq_map] at member
    simp only [inside, List.map_map, List.mem_map, Function.comp_apply] at member
    obtain ⟨e, inEntries, rfl⟩ := member
    exact .inl ⟨e.2, List.mem_map_of_mem inEntries, rfl⟩
  | again p =>
    rw [tie] at member
    split at member
    · rename_i here
      exact .inr ⟨by rw [here], member⟩
    · cases member
  | shared p v =>
    rw [tie] at member
    split at member <;> cases member
  | _ => cases member

/-- Every part that stands for the value around it in a place is inside such a value, so there is
nothing left to tie. -/
def IsWhole (v : Value) : Prop :=
  ∀ place whole, tie place whole v = v

theorem IsWhole.of_mem_inside (isWhole : v.IsWhole) (member : c ∈ v.inside) : c.IsWhole := by
  intro place whole
  have unchanged := isWhole place whole
  cases v with
  | list items =>
    rw [tie, tieItems_eq_map, list.injEq] at unchanged
    exact List.map_inj_left.1 (unchanged.trans (List.map_id items).symm) c member
  | mapping entries =>
    rw [tie, tieEntries_eq_map, mapping.injEq] at unchanged
    obtain ⟨e, inEntries, rfl⟩ := List.mem_map.1 member
    have same := List.map_inj_left.1 (unchanged.trans (List.map_id entries).symm) e inEntries
    exact congrArg Prod.snd same
  | _ => cases member

/-- In a value that was tied to a whole one a place is free only if it was so before. -/
private theorem tie_tie {p q : Nat} {whole w : Value} (isWhole : whole.IsWhole) (v : Value)
    (bound : q = p ∨ tie q w v = v) : tie q w (tie p whole v) = tie p whole v := by
  match v with
  | list items =>
    have each : ∀ c ∈ items, tie q w (tie p whole c) = tie p whole c := by
      intro c member
      refine tie_tie isWhole c (bound.imp_right fun unchanged => ?_)
      rw [tie, tieItems_eq_map, list.injEq] at unchanged
      exact List.map_inj_left.1 (unchanged.trans (List.map_id items).symm) c member
    simpa [tie] using each
  | mapping entries =>
    have each : ∀ e ∈ entries, tie q w (tie p whole e.2) = tie p whole e.2 := by
      intro e member
      refine tie_tie isWhole e.2 (bound.imp_right fun unchanged => ?_)
      rw [tie, tieEntries_eq_map, mapping.injEq] at unchanged
      exact congrArg Prod.snd
        (List.map_inj_left.1 (unchanged.trans (List.map_id entries).symm) e member)
    simpa [tie] using each
  | pair key value =>
    have parts : (q = p ∨ tie q w key = key) ∧ (q = p ∨ tie q w value = value) := by
      rcases bound with here | unchanged
      · exact ⟨.inl here, .inl here⟩
      · rw [tie, pair.injEq] at unchanged
        exact ⟨.inr unchanged.1, .inr unchanged.2⟩
    rw [tie, tie, tie_tie isWhole key parts.1, tie_tie isWhole value parts.2]
  | shared r inner =>
    by_cases here : r = p
    · rw [tie, if_pos here]
      rcases bound with rfl | unchanged
      · rw [tie, if_pos here]
      · exact unchanged
    · rw [tie, if_neg here, tie]
      split
      · rfl
      · rename_i apart
        rw [tie_tie isWhole inner (bound.imp_right fun unchanged => ?_)]
        rw [tie, if_neg apart, shared.injEq] at unchanged
        exact unchanged.2
  | again r =>
    by_cases here : r = p
    · rw [tie, if_pos here, isWhole]
    · rw [tie, if_neg here]
      rcases bound with rfl | unchanged
      · rw [tie, if_neg here]
      · exact unchanged
  | null | bool _ | int _ | float _ | nan _ | text _ | bytes _ | time _ | set _ => rfl
termination_by v.size
decreasing_by
  · exact size_lt_of_mem_inside (v := list items) member
  · exact size_lt_of_mem_inside (v := mapping entries) (List.mem_map_of_mem member)
  all_goals
    simp only [size]
    omega

/-- A whole value is whole when it is opened. -/
theorem IsWhole.bare (isWhole : v.IsWhole) : v.bare.IsWhole := by
  cases v with
  | shared p inner =>
    intro q w
    refine tie_tie isWhole inner (Decidable.or_iff_not_imp_left.2 fun apart => ?_)
    have unchanged := isWhole q w
    rw [tie, if_neg (Ne.symm apart), shared.injEq] at unchanged
    exact unchanged.2
  | _ => exact isWhole

/-- A reader that goes on from a value to others inside it comes to its end within a number of
steps. -/
inductive EndsWithin (next : Value → List Value) : Nat → Value → Prop
  | step {n : Nat} {v : Value} :
    (∀ c ∈ next v.bare, EndsWithin next n c) → EndsWithin next (n + 1) v

variable {next : Value → List Value} {n m : Nat}

theorem EndsWithin.mono (ends : EndsWithin next n v) (le : n ≤ m) : EndsWithin next m v := by
  induction ends generalizing m with
  | step _ ih =>
    obtain ⟨m, rfl⟩ : ∃ m', m = m' + 1 := ⟨m - 1, by omega⟩
    exact .step fun c member => ih c member (by omega)

theorem EndsWithin.of_mem (ends : EndsWithin next (n + 1) v) (member : c ∈ next v.bare) :
    EndsWithin next n c := by
  cases ends with
  | step each => exact each c member

/-- A value with places tied, one after another, to the values shared in them. -/
private def tieAll (knots : List (Nat × Value)) (v : Value) : Value :=
  knots.foldl (fun v knot => tie knot.1 (shared knot.1 knot.2) v) v

variable {knots : List (Nat × Value)}

private theorem mem_inside_tieAll (member : c ∈ (tieAll knots v).inside) :
    ∃ part ∈ v.inside, tieAll knots part = c := by
  induction knots generalizing v with
  | nil => exact ⟨c, member, rfl⟩
  | cons knot rest ih =>
    obtain ⟨tied, inTied, rfl⟩ := ih member
    rcases mem_inside_tie inTied with ⟨part, inV, rfl⟩ | ⟨_, inShared⟩
    · exact ⟨part, inV, rfl⟩
    · cases inShared

private theorem tieAll_shared (inner : Value) : tieAll knots (shared place inner) =
    shared place (tieAll (knots.filter (·.1 ≠ place)) inner) := by
  induction knots generalizing inner with
  | nil => rfl
  | cons knot rest ih =>
    rw [tieAll, List.foldl_cons, ← tieAll, tie]
    by_cases here : place = knot.1
    · rw [if_pos here, ih, List.filter_cons_of_neg (by simp [here])]
    · rw [if_neg here, ih, List.filter_cons_of_pos (by simpa using Ne.symm here)]
      rfl

private theorem tieAll_again (place : Nat)
    (wholes : ∀ knot ∈ knots, (shared knot.1 knot.2).IsWhole) :
    tieAll knots (again place) = again place ∨
      ∃ knot ∈ knots, tieAll knots (again place) = shared knot.1 knot.2 := by
  induction knots with
  | nil => exact .inl rfl
  | cons knot rest ih =>
    rw [tieAll, List.foldl_cons, ← tieAll, tie]
    have wholes' := fun k member => wholes k (List.mem_cons_of_mem _ member)
    split
    · -- what a place is tied to is whole, so the knots behind change nothing
      refine .inr ⟨knot, List.mem_cons_self, ?_⟩
      have isWhole := wholes knot List.mem_cons_self
      clear ih wholes wholes'
      induction rest with
      | nil => rfl
      | cons next rest ih => rwa [tieAll, List.foldl_cons, ← tieAll, isWhole]
    · rcases ih wholes' with same | ⟨k, member, same⟩
      · exact .inl same
      · exact .inr ⟨k, List.mem_cons_of_mem _ member, same⟩

private theorem bare_tieAll (unshared : ∀ p w, v ≠ shared p w) (other : ∀ p, v ≠ again p) :
    (tieAll knots v).bare = tieAll knots v := by
  induction knots generalizing v with
  | nil =>
    cases v with
    | shared p w => exact absurd rfl (unshared p w)
    | _ => rfl
  | cons knot rest ih =>
    rw [tieAll, List.foldl_cons, ← tieAll]
    cases v with
    | shared p w => exact absurd rfl (unshared p w)
    | again p => exact absurd rfl (other p)
    | _ => exact ih (fun _ _ => nofun) (fun _ => nofun)

/-- A reader that comes to its end needs a first number of steps for it. -/
private theorem EndsWithin.exists_first (ends : EndsWithin next n v) :
    ∃ m, m + 1 ≤ n ∧ EndsWithin next (m + 1) v ∧ ¬ EndsWithin next m v := by
  induction n with
  | zero => cases ends
  | succ n ih =>
    by_cases earlier : EndsWithin next n v
    · obtain ⟨m, le, found⟩ := ih earlier
      exact ⟨m, Nat.le_succ_of_le le, found⟩
    · exact ⟨n, Nat.le_refl _, ends, earlier⟩

/-- The knots are tied to values that do not come to their end within a number of steps: they are
being read. -/
private def Late (next : Value → List Value) (n : Nat) (knots : List (Nat × Value)) : Prop :=
  ∀ knot ∈ knots, (shared knot.1 knot.2).IsWhole ∧ ¬ EndsWithin next n (shared knot.1 knot.2)

private theorem Late.anti (late : Late next n knots) (le : m ≤ n) : Late next m knots :=
  fun knot member => (late knot member).imp_right fun tooLate early => tooLate (early.mono le)

/-- What comes to an end does not lead back to values that end too late. -/
private theorem endsWithin_tieAll (looks : ∀ v, next v ⊆ v.inside) {size : Nat}
    (fits : v.size ≤ size) (late : Late next n knots) (isWhole : (tieAll knots v).IsWhole)
    (ends : EndsWithin next n (tieAll knots v)) : EndsWithin next size (tieAll knots v) := by
  induction size generalizing n knots v with
  | zero => exact absurd v.size_pos (by omega)
  | succ size ih =>
    by_cases isShared : ∃ place inner, v = shared place inner
    · obtain ⟨place, inner, rfl⟩ := isShared
      obtain ⟨m, le, first, notBefore⟩ := ends.exists_first
      rw [tieAll_shared] at first notBefore isWhole ⊢
      -- while it is read the shared value is itself a knot that ends too late
      have late' : Late next m (knots.filter (·.1 ≠ place) ++
          [(place, tieAll (knots.filter (·.1 ≠ place)) inner)]) := by
        intro knot among
        rcases List.mem_append.1 among with before | last
        · exact late.anti (Nat.le_of_succ_le le) knot (List.mem_of_mem_filter before)
        · obtain rfl := List.mem_singleton.1 last
          exact ⟨isWhole, notBefore⟩
      have opened : (shared place (tieAll (knots.filter (·.1 ≠ place)) inner)).bare =
          tieAll (knots.filter (·.1 ≠ place) ++
            [(place, tieAll (knots.filter (·.1 ≠ place)) inner)]) inner := by
        simp [bare, tieAll]
      refine .step fun c member => ?_
      have inBare := looks _ member
      have wholeC := isWhole.bare.of_mem_inside inBare
      have endsC := first.of_mem member
      rw [opened] at inBare
      obtain ⟨part, inInner, rfl⟩ := mem_inside_tieAll inBare
      have smaller : part.size < inner.size := size_lt_of_mem_inside inInner
      rw [Value.size] at fits
      exact ih (by omega) late' wholeC endsC
    by_cases isAgain : ∃ place, v = again place
    · obtain ⟨place, rfl⟩ := isAgain
      rcases tieAll_again place fun knot member => (late knot member).1 with
        same | ⟨knot, member, same⟩
      · rw [same]
        refine .step fun c member => ?_
        cases looks _ member
      · rw [same] at ends
        exact absurd ends (late knot member).2
    · have plain : (tieAll knots v).bare = tieAll knots v :=
        bare_tieAll (fun p w same => isShared ⟨p, w, same⟩) (fun p same => isAgain ⟨p, same⟩)
      obtain ⟨n, rfl⟩ : ∃ n', n = n' + 1 := by
        cases ends with
        | step _ => exact ⟨_, rfl⟩
      refine .step fun c member => ?_
      have endsC := ends.of_mem member
      rw [plain] at member
      have wholeC := isWhole.of_mem_inside (looks _ member)
      obtain ⟨part, inV, rfl⟩ := mem_inside_tieAll (looks _ member)
      have smaller := size_lt_of_mem_inside inV
      exact ih (by omega) (late.anti (Nat.le_succ n)) wholeC endsC

/-- A reader that comes to its end goes no deeper than a value has parts. -/
theorem EndsWithin.within_size (looks : ∀ v, next v ⊆ v.inside) (isWhole : v.IsWhole)
    (ends : EndsWithin next n v) : EndsWithin next v.size v := by
  have unknotted : Late next n [] := fun _ => nofun
  exact endsWithin_tieAll looks (Nat.le_refl _) unknotted isWhole ends

end AdlTables.Value
