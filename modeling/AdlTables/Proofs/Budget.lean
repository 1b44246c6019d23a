import AdlTables.Proofs.Expansion

/-! # The budget of an expansion

The types that an expansion meets form a chain, and the budget bounds how many of them are expanded.
An expansion is reported as endless exactly if its chain has more types to expand than the budget
allows; otherwise it comes to what the last type of the chain says. Remembering the types on the way
changes neither: a type that comes back starts a chain without end, which no budget covers.
-/

namespace AdlTables

section Reports

variable {α β : Type}

def ReportsEndless (x : Except Fault α) : Prop :=
  ∃ type chain, x = .error (.problem (.endlessExpansion type chain))

@[simp] theorem not_reportsEndless_ok (a : α) : ¬ ReportsEndless (.ok a : Except Fault α) := by
  simp [ReportsEndless]

@[simp] theorem not_reportsEndless_breakDown (m : Mishap) :
    ¬ ReportsEndless (Fault.breakDown m : Except Fault α) := by
  simp [ReportsEndless, Fault.breakDown]

theorem reportsEndless_bind {x : Except Fault α} {f : α → Except Fault β} :
    ReportsEndless (x >>= f) ↔ ReportsEndless x ∨ ∃ a, x = .ok a ∧ ReportsEndless (f a) := by
  cases x <;> simp [ReportsEndless]

theorem reportsEndless_map {x : Except Fault α} {f : α → β} :
    ReportsEndless (f <$> x) ↔ ReportsEndless x := by
  cases x <;> simp [ReportsEndless, Functor.map, Except.map]

@[simp] theorem not_reportsEndless_say (v : Value) : ¬ ReportsEndless v.say := by
  rw [Value.say]
  split <;> simp

@[simp] theorem not_reportsEndless_scopedSay (n : ScopedName) : ¬ ReportsEndless n.say := by
  simp [ScopedName.say, reportsEndless_bind]

@[simp] theorem not_reportsEndless_allTexts (values : List Value) :
    ¬ ReportsEndless (TypeExpr.allTexts values) := by
  induction values with
  | nil => simp [TypeExpr.allTexts]
  | cons v rest ih =>
    rw [TypeExpr.allTexts] at ih ⊢
    rw [List.mapM_cons, reportsEndless_bind]
    rintro (here | ⟨s, _, there⟩)
    · cases v <;> simp at here
    · simp [reportsEndless_bind, ih] at there

private theorem not_reportsEndless_label (t : TypeExpr) : ¬ ReportsEndless (t.label .short) := by
  induction t with
  | node head args ih =>
    have inner : ¬ ReportsEndless (TypeExpr.labels .short args) := by
      induction args with
      | nil => simp [TypeExpr.labels]
      | cons t rest ihs =>
        simp only [TypeExpr.labels, reportsEndless_bind, Outcome.pure_eq_ok, not_reportsEndless_ok]
        rintro (here | ⟨_, _, there | ⟨_, _, absurd⟩⟩)
        · exact ih t List.mem_cons_self here
        · exact ihs (fun u member => ih u (List.mem_cons_of_mem _ member)) there
        · exact absurd
    rw [TypeExpr.label]
    cases head <;> simp [TypeRef.label] <;> split <;>
      simp [reportsEndless_bind, inner]

private theorem not_reportsEndless_complain (t : TypeExpr) {problem : Value → Problem}
    (other : ∀ v type chain, problem v ≠ .endlessExpansion type chain) :
    ¬ ReportsEndless (t.complain problem : Except Fault α) := by
  simp only [TypeExpr.complain, reportsEndless_bind, not_or]
  refine ⟨not_reportsEndless_label t, ?_⟩
  rintro ⟨v, _, type, chain, same⟩
  simp only [Fault.raise, Except.error.injEq, Fault.problem.injEq] at same
  exact other v type chain same

private theorem not_reportsEndless_shape (t : TypeExpr) : ¬ ReportsEndless t.shape := by
  have optional : ¬ ReportsEndless t.optionalArgument := by
    rw [TypeExpr.optionalArgument]
    split
    · simp
    · exact not_reportsEndless_complain t (by simp)
  have unbound (name : Value) :
      ¬ ReportsEndless (t.complain (.unboundParameter name) : Except Fault Shape) :=
    not_reportsEndless_complain t (by simp)
  rw [TypeExpr.shape]
  split
  · split <;> simp [reportsEndless_bind, optional]
  · split <;> simp [reportsEndless_bind, optional]
  · simp [reportsEndless_bind, unbound]

private theorem not_reportsEndless_resolve (g : Graph) (n : ScopedName) :
    ¬ ReportsEndless (g.resolve n) := by
  rw [Graph.resolve]
  repeat' split
  all_goals simp [ReportsEndless, Fault.raise, Fault.breakDown]

private theorem not_reportsEndless_stage (g : Graph) (t : TypeExpr) :
    ¬ ReportsEndless (g.stage t) := by
  rw [Graph.stage, reportsEndless_bind, not_or]
  refine ⟨not_reportsEndless_shape t, ?_⟩
  rintro ⟨shape, _, staged⟩
  cases shape with
  | primitive kind _ =>
    dsimp only at staged
    split at staged <;> simp at staged
  | optional _ => simp at staged
  | declared name _ =>
    dsimp only at staged
    split at staged
    · simp at staged
    · obtain here | ⟨d, _, there⟩ := reportsEndless_bind.1 staged
      · exact not_reportsEndless_resolve g name here
      · split at there <;> simp at there

private theorem not_reportsEndless_unfold (name : ScopedName) (args : List TypeExpr)
    (params : List Value) (body : TypeExpr) :
    ¬ ReportsEndless (Graph.unfold name args params body) := by
  have arity : ¬ ReportsEndless ((TypeExpr.node (.reference name) args).complain
      (.argumentCount name params.length args.length) : Except Fault TypeExpr) :=
    not_reportsEndless_complain _ (by simp)
  have bound : ¬ ReportsEndless (TypeExpr.bind params args) := by
    rw [TypeExpr.bind]
    split <;> simp
  have filled (b : Bindings) : ¬ ReportsEndless (body.instantiate b) := by
    rw [TypeExpr.instantiate]
    split <;> simp
  rw [Graph.unfold]
  split <;> simp [reportsEndless_bind, arity, bound, filled]

end Reports

namespace Graph

open TypeExpr (Writable)

variable {g : Graph} {whole t u v : TypeExpr} {budget m n : Nat} {chain : List Value}
  {seen : List TypeExpr} {r : Except Fault Leaf}

private theorem not_reportsEndless_expand (staged : g.stage t = .ok .renamed) :
    ¬ ReportsEndless (g.expand t) := by
  obtain ⟨name, args, params, body, rfl, _, _, renames⟩ := stage_eq_renamed.1 staged
  rw [expand_reference renames, reportsEndless_map]
  exact not_reportsEndless_unfold name args params body

/-- A refusal is no result. -/
theorem refuseExpansion_ne_ok {whole : TypeExpr} {chain : List Value} {leaf : Leaf} :
    refuseExpansion whole chain ≠ .ok leaf := by
  intro refused
  simp [refuseExpansion, Outcome.bind_eq_ok, Fault.raise] at refused

/-- One round of an expansion: a leaf or a fault at the head of the type is what comes of it, and
another name for a type is expanded, unless the type came before or the budget is spent. -/
theorem outcome_leafWithin (g : Graph) (whole : TypeExpr) (budget : Nat) (chain : List Value)
    (seen : List TypeExpr) (t : TypeExpr) :
    (g.leafWithin whole budget chain seen t).outcome = (do
      match ← g.stage t with
      | .leaf leaf => return leaf
      | .renamed =>
        let text ← t.label .short
        if !t.isKey then Fault.breakDown .wrongKind
        else if seen.any t.same then refuseExpansion whole (chain ++ [text])
        else match budget with
          | 0 => refuseExpansion whole (chain ++ [text])
          | budget + 1 => match ← g.expand t with
            | none => return .reference
            | some next => do
              let _ ← text.say
              let _ ← (← next.label .short).say
              (g.leafWithin whole budget (chain ++ [text]) (t :: seen) next).outcome) := by
  rw [leafWithin, stage]
  simp only [Journaled.outcome_bind, Journaled.outcome_monadLift]
  cases shaped : t.shape with
  | error fault => rfl
  | ok shape => cases shape with
    | primitive kind args =>
      simp only [Outcome.ok_bind]
      split <;> rfl
    | optional inner => rfl
    | declared name args =>
      simp only [Outcome.ok_bind]
      cases temporal? name with
      | some leaf => rfl
      | none =>
        simp only [Journaled.outcome_bind, Journaled.outcome_monadLift]
        cases found : g.resolve name with
        | error fault => rfl
        | ok d =>
          simp only [Outcome.ok_bind]
          cases d.decl.body with
          | struct _ _ => rfl
          | union _ fields => rfl
          | newtype _ _ | typeAlias _ _ =>
            simp only [Journaled.outcome_bind, Journaled.outcome_monadLift, Outcome.pure_eq_ok,
              Outcome.ok_bind]
            refine bind_congr fun text => ?_
            split
            · rfl
            split
            · rfl
            cases budget with
            | zero => rfl
            | succ budget =>
              simp only [Journaled.outcome_bind, Journaled.outcome_monadLift]
              refine bind_congr fun next => ?_
              cases next with
              | none => rfl
              | some next =>
                simp only [Journaled.outcome_bind, Journaled.outcome_monadLift,
                  Journaled.outcome_note, Outcome.ok_bind]

section Round

variable {s : String} (staged : g.stage t = .ok .renamed) (isKey : t.isKey)
  (labelled : t.label .short = .ok (.text s))

include staged isKey labelled

private theorem outcome_leafWithin_again (again : seen.any t.same) :
    (g.leafWithin whole budget chain seen t).outcome =
      refuseExpansion whole (chain ++ [.text s]) := by
  rw [outcome_leafWithin]
  simp [staged, isKey, labelled, again]

private theorem outcome_leafWithin_spent :
    (g.leafWithin whole 0 chain seen t).outcome = refuseExpansion whole (chain ++ [.text s]) := by
  rw [outcome_leafWithin]
  simp [staged, isKey, labelled]

private theorem outcome_leafWithin_stuck {fault : Fault} (new : ¬ seen.any t.same)
    (stuck : g.expand t = .error fault) :
    (g.leafWithin whole (budget + 1) chain seen t).outcome = .error fault := by
  simp only [Bool.not_eq_true] at new
  rw [outcome_leafWithin]
  simp [staged, isKey, labelled, new, stuck]

private theorem outcome_leafWithin_step (new : ¬ seen.any t.same) (step : g.Step t u)
    (shown : u.Writable) : (g.leafWithin whole (budget + 1) chain seen t).outcome =
      (g.leafWithin whole budget (chain ++ [.text s]) (t :: seen) u).outcome := by
  obtain ⟨_, s', labelled'⟩ := shown
  simp only [Bool.not_eq_true] at new
  rw [outcome_leafWithin]
  simp [staged, isKey, labelled, new, step.2, labelled']

end Round

private theorem reportsEndless_refuseExpansion (titled : whole.Writable) (ss : List String) :
    ReportsEndless (refuseExpansion whole (ss.map .text)) := by
  obtain ⟨_, s, labelled⟩ := titled
  exact ⟨.text s, ss, by simp [refuseExpansion, labelled, Fault.raise]⟩

private theorem texts_of_reportsEndless (reports : ReportsEndless (refuseExpansion whole chain)) :
    ∃ ss : List String, chain = ss.map .text := by
  simp only [refuseExpansion, reportsEndless_bind, not_reportsEndless_label, not_reportsEndless_say,
    not_reportsEndless_allTexts, false_or] at reports
  obtain ⟨_, _, _, _, ss, texts, _⟩ := reports
  exact ⟨ss, TypeExpr.allTexts_eq_ok.1 texts⟩

/-- Remembered types come earlier in the chain. -/
def Before (g : Graph) (seen : List TypeExpr) (t : TypeExpr) : Prop :=
  ∀ u ∈ seen, ∃ k, g.StepsIn (k + 1) u t

theorem Before.step (before : g.Before seen t) (step : g.Step t u) : g.Before (t :: seen) u := by
  intro v member
  obtain rfl | member := List.mem_cons.1 member
  · exact ⟨0, .head step (.refl u)⟩
  · obtain ⟨k, steps⟩ := before v member
    exact ⟨k + 1, steps.trans (.head step (.refl u))⟩

/-- A type that comes again starts a chain without end. -/
theorem Before.outruns (before : g.Before seen t) (again : seen.any t.same) (n : Nat) :
    g.Outruns n t := by
  obtain ⟨u, member, same⟩ := List.any_eq_true.1 again
  obtain ⟨k, steps⟩ := before u member
  exact outruns_of_revisit steps (.of_same same) n

/-- A chain that outruns the budget is refused, at the latest when the budget is spent. -/
theorem reportsEndless_leafWithin (titled : whole.Writable) (ss : List String)
    (writable : ∀ k u, k ≤ budget → g.StepsIn k t u → u.Writable) (outruns : g.Outruns budget t) :
    ReportsEndless (g.leafWithin whole budget (ss.map .text) seen t).outcome := by
  -- on the budget: a type that came before is refused a round early, which is a report as well
  induction budget generalizing t seen ss with
  | zero =>
    obtain ⟨isKey, s, labelled⟩ := writable 0 t (Nat.zero_le _) (.refl t)
    rw [outcome_leafWithin_spent outruns.renamed isKey labelled]
    simpa using reportsEndless_refuseExpansion titled (ss ++ [s])
  | succ budget ih =>
    obtain ⟨isKey, s, labelled⟩ := writable 0 t (Nat.zero_le _) (.refl t)
    obtain ⟨u, step, rest⟩ := outruns_succ.1 outruns
    by_cases again : seen.any t.same
    · rw [outcome_leafWithin_again step.1 isKey labelled again]
      simpa using reportsEndless_refuseExpansion titled (ss ++ [s])
    · have shown := writable 1 u (Nat.le_add_left 1 budget) (.head step (.refl u))
      rw [outcome_leafWithin_step step.1 isKey labelled again step shown]
      have later k v (within : k ≤ budget) (steps : g.StepsIn k u v) : v.Writable :=
        writable (k + 1) v (Nat.succ_le_succ within) (.head step steps)
      simpa using ih (ss ++ [s]) later rest

/-- A chain within the budget comes to what its last type says. The types remembered play no part,
since they come earlier in the chain and it would not end if one of them came again. -/
theorem leafWithin_of_settles (before : g.Before seen t)
    (writable : ∀ k u, k ≤ budget → g.StepsIn k t u → u.Writable) (steps : g.StepsIn n t v)
    (settles : g.Settles v r) (within : ¬ g.Outruns budget t) :
    (g.leafWithin whole budget chain seen t).outcome = r := by
  -- on the chain: `before` rules out a return, and `within` that the budget is spent on the way
  induction steps generalizing budget chain seen with
  | refl t =>
    cases settles with
    | leaf staged | fault staged => rw [outcome_leafWithin, staged]; rfl
    | stuck staged stuck =>
      have new : ¬ seen.any t.same := fun again => within (before.outruns again budget)
      obtain ⟨isKey, s, labelled⟩ := writable 0 t (Nat.zero_le _) (.refl t)
      cases budget with
      | zero => exact (within (outruns_zero.2 staged)).elim
      | succ budget => exact outcome_leafWithin_stuck staged isKey labelled new stuck
  | @head n t u v step _ ih =>
    have new : ¬ seen.any t.same := fun again => within (before.outruns again budget)
    obtain ⟨isKey, s, labelled⟩ := writable 0 t (Nat.zero_le _) (.refl t)
    cases budget with
    | zero => exact (within (outruns_zero.2 step.1)).elim
    | succ budget =>
      have shown := writable 1 u (Nat.le_add_left 1 budget) (.head step (.refl u))
      rw [outcome_leafWithin_step step.1 isKey labelled new step shown]
      exact ih (before.step step)
        (fun k w short steps => writable (k + 1) w (Nat.succ_le_succ short) (.head step steps))
        settles fun outruns => within (outruns_succ.2 ⟨u, step, outruns⟩)

/-- Only what is expanded is refused. -/
theorem renamed_of_reportsEndless
    (reports : ReportsEndless (g.leafWithin whole budget chain seen t).outcome) :
    g.stage t = .ok .renamed := by
  rw [outcome_leafWithin, reportsEndless_bind] at reports
  obtain unstaged | ⟨stage, staged, reports⟩ := reports
  · exact (not_reportsEndless_stage g t unstaged).elim
  cases stage with
  | leaf leaf => exact (not_reportsEndless_ok leaf reports).elim
  | renamed => exact staged

/-- The round of a type that did not come before, if something is refused: the type is written, and
the refusal is due to the budget or comes of the next type. -/
theorem round_of_reportsEndless (new : ¬ seen.any t.same)
    (reports : ReportsEndless (g.leafWithin whole budget chain seen t).outcome) :
    ∃ text, t.isKey ∧ t.label .short = .ok text ∧ match budget with
      | 0 => ReportsEndless (refuseExpansion whole (chain ++ [text]))
      | budget + 1 => ∃ u, g.Step t u ∧
        ReportsEndless (g.leafWithin whole budget (chain ++ [text]) (t :: seen) u).outcome := by
  have staged := renamed_of_reportsEndless reports
  rw [outcome_leafWithin, staged, Outcome.ok_bind] at reports
  simp only [reportsEndless_bind, not_reportsEndless_label, false_or] at reports
  obtain ⟨text, labelled, reports⟩ := reports
  by_cases isKey : t.isKey
  · simp only [isKey, Bool.not_true, Bool.false_eq_true, ↓reduceIte, new] at reports
    refine ⟨text, isKey, labelled, ?_⟩
    cases budget with
    | zero => exact reports
    | succ budget =>
      simp only [reportsEndless_bind, not_reportsEndless_expand staged, false_or] at reports
      obtain ⟨next, expanded, reports⟩ := reports
      cases next with
      | none => exact (not_reportsEndless_ok _ reports).elim
      | some u =>
        simp only [reportsEndless_bind, not_reportsEndless_label, not_reportsEndless_say,
          false_or] at reports
        obtain ⟨_, _, _, _, _, _, reports⟩ := reports
        exact ⟨u, ⟨staged, expanded⟩, reports⟩
  · simp [isKey] at reports

/-- What is refused has outrun its budget: a type that came before starts a chain without end. -/
theorem outruns_of_reportsEndless (before : g.Before seen t)
    (reports : ReportsEndless (g.leafWithin whole budget chain seen t).outcome) :
    g.Outruns budget t := by
  induction budget generalizing t chain seen with
  | zero => exact outruns_zero.2 (renamed_of_reportsEndless reports)
  | succ budget ih =>
    by_cases again : seen.any t.same
    · exact before.outruns again (budget + 1)
    · obtain ⟨_, _, _, u, step, rest⟩ := round_of_reportsEndless again reports
      exact outruns_succ.2 ⟨u, step, ih (before.step step) rest⟩

/-- A chain that ends is refused only if it is longer than the budget, and only if the types that
the report lists can be written. -/
theorem writable_of_reportsEndless {leaf : Leaf} (before : g.Before seen t)
    (steps : g.StepsIn n t v) (ends : g.stage v = .ok (.leaf leaf))
    (reports : ReportsEndless (g.leafWithin whole budget chain seen t).outcome) :
    (∃ ss : List String, chain = ss.map .text) ∧ budget < n ∧
      ∀ k u, k ≤ budget → g.StepsIn k t u → u.Writable := by
  -- on the chain: a type is not refused for coming back, so every round up to the last was written
  induction steps generalizing budget chain seen with
  | refl t =>
    have staged := renamed_of_reportsEndless reports
    simp [ends] at staged
  | @head n t u v step rest ih =>
    have new : ¬ seen.any t.same := fun again =>
      Nat.lt_irrefl _ (((StepsIn.head step rest).outruns_iff ends).1 (before.outruns again (n + 1)))
    obtain ⟨text, isKey, labelled, refused⟩ := round_of_reportsEndless new reports
    have listed (ss : List String) (texts : chain ++ [text] = ss.map .text) :
        (∃ ss : List String, chain = ss.map .text) ∧ t.Writable := by
      obtain ⟨first, last, _, here, there⟩ := List.map_eq_append_iff.1 texts.symm
      obtain ⟨s, _, rfl, shown, _⟩ := List.map_eq_cons_iff.1 there
      exact ⟨⟨first, here.symm⟩, isKey, s, shown ▸ labelled⟩
    cases budget with
    | zero =>
      obtain ⟨ss, texts⟩ := texts_of_reportsEndless refused
      refine ⟨(listed ss texts).1, n.succ_pos, fun k w within other => ?_⟩
      obtain rfl := Nat.le_zero.1 within
      exact other.eq_of_zero ▸ (listed ss texts).2
    | succ budget =>
      obtain ⟨next, step', refused⟩ := refused
      obtain rfl := step.unique step'
      obtain ⟨⟨ss, texts⟩, longer, writable⟩ := ih (before.step step) ends refused
      refine ⟨(listed ss texts).1, Nat.succ_lt_succ longer, fun k w within other => ?_⟩
      cases other with
      | refl => exact (listed ss texts).2
      | head step' others =>
        obtain rfl := step.unique step'
        exact writable _ w (Nat.le_of_succ_le_succ within) others

section Leaf

variable (writable : ∀ k u, k ≤ g.expansionBudget t → g.StepsIn k t u → u.Writable)

include writable

/-- A type whose chain ends within the budget holds what the last type of the chain says. -/
theorem outcome_leaf_of_settles (steps : g.StepsIn n t v) (settles : g.Settles v r)
    (within : ¬ g.Outruns (g.expansionBudget t) t) : (g.leaf t).outcome = r :=
  leafWithin_of_settles (by simp [Before]) writable steps settles within

/-- A type is refused exactly if its chain outruns the budget. -/
theorem reportsEndless_leaf :
    ReportsEndless (g.leaf t).outcome ↔ g.Outruns (g.expansionBudget t) t := by
  constructor
  · exact outruns_of_reportsEndless (by simp [Before])
  · exact reportsEndless_leafWithin (writable 0 t (Nat.zero_le _) (.refl t)) [] writable

end Leaf

@[simp] theorem outcome_baseColumnType (p : DialectProfile) (t : TypeExpr) :
    (g.baseColumnType p t).outcome = p.spell <$> (g.leaf t).outcome := by
  rw [baseColumnType, Journaled.outcome_bind]
  cases (g.leaf t).outcome <;> rfl

end Graph

end AdlTables
