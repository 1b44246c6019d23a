import AdlTables.Proofs.Alike
import AdlTables.Column

/-! # Chains of expansions

Expansion as a small-step relation. A type that stands for another one under a new name is expanded;
every other type is a leaf, which says what a column holds, or has a fault. Steps are deterministic
and cannot tell types apart that are alike, so a chain that comes back to a type goes on for ever.
-/

namespace AdlTables

/-- What expansion finds at the head of a type. -/
inductive Stage where
  | leaf (leaf : Leaf)
  | renamed

namespace Graph

variable {g : Graph} {t u v : TypeExpr}

/-- What expansion finds at the head of a type: the types of time and optional types are leaves,
whatever is declared under their names, and newtypes and aliases are not. -/
def stage (g : Graph) (t : TypeExpr) : Except Fault Stage := do
  match ← t.shape with
  | .primitive kind _ =>
    if kind.key?.isSome then return .leaf (.primitive kind) else Fault.breakDown .wrongKind
  | .optional _ => return .leaf .optional
  | .declared name _ =>
    match temporal? name with
    | some leaf => return .leaf leaf
    | none => match (← g.resolve name).decl.body with
      | .struct _ _ => return .leaf .reference
      | .union _ fields => return .leaf (if isEnumeration fields then .enumeration else .reference)
      | .newtype _ _ | .typeAlias _ _ => return .renamed

/-- A scoped name under which a type is declared as a newtype or an alias of a body. -/
def Renames (g : Graph) (name : ScopedName) (params : List Value) (body : TypeExpr) : Prop :=
  ∃ d, g.resolve name = .ok d ∧ d.decl.body.renamed? = some (params, body)

theorem stage_eq_renamed : g.stage t = .ok .renamed ↔
    ∃ name args params body, t = .node (.reference name) args ∧ name.same .maybe = false ∧
      temporal? name = none ∧ g.Renames name params body := by
  constructor
  · intro staged
    obtain ⟨shape, shaped, rest⟩ := Outcome.bind_eq_ok.1 staged
    cases shape with
    | primitive kind _ =>
      dsimp only at rest
      split at rest <;> cases rest
    | optional _ => cases rest
    | declared name args =>
      obtain ⟨rfl, isOther⟩ := TypeExpr.shape_eq_declared.1 shaped
      dsimp only at rest
      split at rest
      · cases rest
      · rename_i timeless
        obtain ⟨d, found, kind⟩ := Outcome.bind_eq_ok.1 rest
        split at kind <;> cases kind
        · rename_i params body declared
          exact ⟨name, args, params, body, rfl, isOther, timeless, d, found,
            by rw [declared, Body.renamed?]⟩
        · rename_i params body declared
          exact ⟨name, args, params, body, rfl, isOther, timeless, d, found,
            by rw [declared, Body.renamed?]⟩
  · rintro ⟨name, args, params, body, rfl, isOther, timeless, d, found, renamed⟩
    rw [stage, TypeExpr.shape_eq_declared.2 ⟨rfl, isOther⟩]
    simp only [Outcome.ok_bind, timeless, found]
    cases declared : d.decl.body <;> simp_all [Body.renamed?]

/-- What a reference to a newtype or an alias stands for: its body with the arguments in place of
the parameters, of which there have to be as many. -/
def unfold (name : ScopedName) (args : List TypeExpr) (params : List Value) (body : TypeExpr) :
    Except Fault TypeExpr :=
  if params.length ≠ args.length then do
    let _ ← name.say
    (TypeExpr.node (.reference name) args).complain
      (.argumentCount name params.length args.length)
  else do
    body.instantiate (← TypeExpr.bind params args)

private theorem expandAs_reference (kind : Renaming) {name : ScopedName} (args : List TypeExpr)
    {params : List Value} {body : TypeExpr} {d : ScopedDecl} (found : g.resolve name = .ok d)
    (renamed : d.decl.body.renamedAs? kind = some (params, body)) :
    g.expandAs kind (.node (.reference name) args) = some <$> unfold name args params body := by
  simp only [expandAs, TypeExpr.head, found, Outcome.ok_bind, renamed, TypeExpr.args, unfold]
  by_cases arity : params.length = args.length
  · simp [arity, map_eq_pure_bind]
  · simp only [arity, ne_eq, not_false_eq_true, ↓reduceIte, TypeExpr.complain, Fault.raise]
    cases name.say <;> cases (TypeExpr.node (.reference name) args).label .short <;> rfl

/-- One step of expansion of a reference to a newtype or an alias. -/
theorem expand_reference {name : ScopedName} {args : List TypeExpr} {params : List Value}
    {body : TypeExpr} (renames : g.Renames name params body) :
    g.expand (.node (.reference name) args) = some <$> unfold name args params body := by
  obtain ⟨d, found, renamed⟩ := renames
  cases declared : d.decl.body with
  | struct _ _ | union _ _ => simp [declared, Body.renamed?] at renamed
  | typeAlias params' body' =>
    have first := expandAs_reference .typeAlias args found
      (by simpa [declared, Body.renamedAs?, Body.renamed?] using renamed)
    rw [expand, first]
    cases unfold name args params body <;> rfl
  | newtype params' body' =>
    have first : g.expandAs .typeAlias (.node (.reference name) args) = .ok none := by
      simp [expandAs, TypeExpr.head, found, declared, Body.renamedAs?]
    have second := expandAs_reference .newtype args found
      (by simpa [declared, Body.renamedAs?, Body.renamed?] using renamed)
    rw [expand, first, ← second]
    rfl

theorem unfold_eq_ok {name : ScopedName} {args : List TypeExpr} {params : List Value}
    {body : TypeExpr} : unfold name args params body = .ok u ↔
      params.length = args.length ∧ params.all (·.key?.isSome) ∧
        body.isOpen (Entries.ofList (params.zip args)) ∧
          body.substitute (Entries.ofList (params.zip args)) = u := by
  by_cases arity : params.length = args.length
  · by_cases keys : params.all (·.key?.isSome)
    · by_cases isOpen : body.isOpen (Entries.ofList (params.zip args))
      · simp [unfold, TypeExpr.bind, TypeExpr.instantiate, arity, keys, isOpen]
      · simp [unfold, TypeExpr.bind, TypeExpr.instantiate, arity, keys, isOpen, Fault.breakDown]
    · simp [unfold, TypeExpr.bind, arity, keys, Fault.breakDown]
  · simp [unfold, arity, TypeExpr.complain, Outcome.bind_eq_ok, Fault.raise]

/-- A type is a reference to a newtype or an alias and expands to another type. -/
def Step (g : Graph) (t u : TypeExpr) : Prop :=
  g.stage t = .ok .renamed ∧ g.expand t = .ok (some u)

/-- A step spelled out, from the reference to the body with the arguments in it. -/
theorem step_iff : g.Step t u ↔ ∃ name args params body,
    t = .node (.reference name) args ∧ name.same .maybe = false ∧ temporal? name = none ∧
      g.Renames name params body ∧ unfold name args params body = .ok u := by
  constructor
  · rintro ⟨staged, expanded⟩
    obtain ⟨name, args, params, body, rfl, isOther, timeless, renames⟩ := stage_eq_renamed.1 staged
    rw [expand_reference renames] at expanded
    refine ⟨name, args, params, body, rfl, isOther, timeless, renames, ?_⟩
    cases unfolded : unfold name args params body <;> simp_all [Functor.map, Except.map]
  · rintro ⟨name, args, params, body, rfl, isOther, timeless, renames, unfolded⟩
    refine ⟨stage_eq_renamed.2 ⟨name, args, params, body, rfl, isOther, timeless, renames⟩, ?_⟩
    rw [expand_reference renames, unfolded]
    rfl

theorem Step.unique (first : g.Step t u) (second : g.Step t v) : u = v := by
  have same := first.2.symm.trans second.2
  simpa using same

/-- A type that is expanded has a next type or a fault. -/
theorem step_or_stuck (staged : g.stage t = .ok .renamed) :
    (∃ u, g.Step t u) ∨ ∃ fault, g.expand t = .error fault := by
  obtain ⟨name, args, params, body, rfl, isOther, timeless, renames⟩ := stage_eq_renamed.1 staged
  cases unfolded : unfold name args params body with
  | ok u => exact .inl ⟨u, step_iff.2 ⟨_, _, _, _, rfl, isOther, timeless, renames, unfolded⟩⟩
  | error fault => exact .inr ⟨fault, by rw [expand_reference renames, unfolded]; rfl⟩

private theorem temporal?_alike {n n' : ScopedName} (alike : n.Alike n') :
    temporal? n = temporal? n' := by
  simp only [temporal?, alike.same_left]

/-- Types that are alike expand to types that are alike. -/
theorem Step.alike {t' : TypeExpr} (step : g.Step t u) (alike : t.Alike t') :
    ∃ u', g.Step t' u' ∧ u.Alike u' := by
  obtain ⟨name, args, params, body, rfl, isOther, timeless, ⟨d, found, renamed⟩, unfolded⟩ :=
    step_iff.1 step
  obtain ⟨arity, keys, isOpen, rfl⟩ := unfold_eq_ok.1 unfolded
  obtain ⟨head', args'⟩ := t'
  obtain ⟨heads, each⟩ := TypeExpr.alike_node_iff.1 alike
  cases head' with
  | primitive _ | parameter _ => exact heads.elim
  | reference name' =>
    have names : name.Alike name' := heads
    have bound : Bindings.Alike (Entries.ofList (params.zip args))
        (Entries.ofList (params.zip args')) := .ofList each
    refine ⟨body.substitute (Entries.ofList (params.zip args')), step_iff.2 ⟨name', args', params,
      body, rfl, names.same_left ▸ isOther, temporal?_alike names ▸ timeless,
      ⟨d, resolve_alike names found, renamed⟩, unfold_eq_ok.2 ⟨arity.trans each.length_eq, keys,
        TypeExpr.isOpen_congr bound body ▸ isOpen, rfl⟩⟩, .substitute bound body⟩

/-- A type expands to another in a number of steps. -/
inductive StepsIn (g : Graph) : Nat → TypeExpr → TypeExpr → Prop
  | refl (t : TypeExpr) : StepsIn g 0 t t
  | head {n : Nat} {t u v : TypeExpr} : g.Step t u → StepsIn g n u v → StepsIn g (n + 1) t v

/-- More types than a number are expanded, one after another, from a type on. -/
def Outruns (g : Graph) (n : Nat) (t : TypeExpr) : Prop :=
  ∃ u, g.StepsIn n t u ∧ g.stage u = .ok .renamed

/-- What comes of a type at which a chain ends: what a column holds, or a fault. -/
inductive Settles (g : Graph) : TypeExpr → Except Fault Leaf → Prop
  | leaf {t : TypeExpr} {leaf : Leaf} : g.stage t = .ok (.leaf leaf) → Settles g t (.ok leaf)
  | fault {t : TypeExpr} {fault : Fault} : g.stage t = .error fault → Settles g t (.error fault)
  | stuck {t : TypeExpr} {fault : Fault} : g.stage t = .ok .renamed →
    g.expand t = .error fault → Settles g t (.error fault)

variable {m n : Nat} {r : Except Fault Leaf}

private theorem step_or_settles (g : Graph) (t : TypeExpr) :
    (∃ u, g.Step t u) ∨ ∃ r, g.Settles t r := by
  cases staged : g.stage t with
  | error fault => exact .inr ⟨_, .fault staged⟩
  | ok stage => cases stage with
    | leaf leaf => exact .inr ⟨_, .leaf staged⟩
    | renamed => exact (step_or_stuck staged).imp_right fun ⟨_, stuck⟩ => ⟨_, .stuck staged stuck⟩

theorem Settles.not_step (settles : g.Settles t r) : ¬ g.Step t u := by
  rintro ⟨staged, expanded⟩
  cases settles with
  | leaf other | fault other => simp [staged] at other
  | stuck _ stuck => simp [expanded] at stuck

theorem Settles.unique {r' : Except Fault Leaf} (settles : g.Settles t r)
    (settles' : g.Settles t r') : r = r' := by
  cases settles <;> cases settles' <;> simp_all

namespace StepsIn

theorem eq_of_zero (steps : g.StepsIn 0 t u) : t = u := by
  cases steps
  rfl

theorem trans (first : g.StepsIn m t u) (second : g.StepsIn n u v) : g.StepsIn (m + n) t v := by
  induction first with
  | refl t => simpa using second
  | head step _ ih =>
    rw [Nat.add_right_comm]
    exact .head step (ih second)

theorem split (steps : g.StepsIn (m + n) t v) : ∃ u, g.StepsIn m t u ∧ g.StepsIn n u v := by
  induction m generalizing t with
  | zero => exact ⟨t, .refl t, by simpa using steps⟩
  | succ m ih =>
    rw [Nat.add_right_comm] at steps
    obtain ⟨⟩ | ⟨step, rest⟩ := steps
    obtain ⟨u, first, second⟩ := ih rest
    exact ⟨u, .head step first, second⟩

theorem unique (first : g.StepsIn n t u) (second : g.StepsIn n t v) : u = v := by
  induction first with
  | refl t => exact second.eq_of_zero
  | head step _ ih =>
    obtain ⟨⟩ | ⟨step', rest⟩ := second
    obtain rfl := step.unique step'
    exact ih rest

theorem alike {t' : TypeExpr} (steps : g.StepsIn n t u) (alike : t.Alike t') :
    ∃ u', g.StepsIn n t' u' ∧ u.Alike u' := by
  induction steps generalizing t' with
  | refl t => exact ⟨t', .refl t', alike⟩
  | head step _ ih =>
    obtain ⟨w, step', alike'⟩ := step.alike alike
    obtain ⟨u', rest, ends⟩ := ih alike'
    exact ⟨u', .head step' rest, ends⟩

/-- What a step keeps holds along a chain. -/
theorem keeps {p : TypeExpr → Prop} (kept : ∀ {t u}, p t → g.Step t u → p u) (holds : p t)
    (steps : g.StepsIn n t u) : p u := by
  induction steps with
  | refl t => exact holds
  | head step _ ih => exact ih (kept holds step)

end StepsIn

@[simp] theorem outruns_zero : g.Outruns 0 t ↔ g.stage t = .ok .renamed :=
  ⟨fun ⟨_, steps, staged⟩ => steps.eq_of_zero ▸ staged, fun staged => ⟨t, .refl t, staged⟩⟩

theorem outruns_succ : g.Outruns (n + 1) t ↔ ∃ u, g.Step t u ∧ g.Outruns n u := by
  constructor
  · rintro ⟨v, ⟨⟩ | ⟨step, rest⟩, staged⟩
    exact ⟨_, step, v, rest, staged⟩
  · rintro ⟨u, step, v, rest, staged⟩
    exact ⟨v, .head step rest, staged⟩

theorem Outruns.renamed (outruns : g.Outruns n t) : g.stage t = .ok .renamed := by
  cases n with
  | zero => exact outruns_zero.1 outruns
  | succ n =>
    obtain ⟨u, step, _⟩ := outruns_succ.1 outruns
    exact step.1

/-- A chain of some steps has that many types that are expanded before its end. -/
theorem StepsIn.outruns (steps : g.StepsIn n t v) (shorter : m < n) : g.Outruns m t := by
  obtain ⟨k, rfl⟩ := Nat.exists_eq_add_of_lt shorter
  rw [Nat.add_assoc] at steps
  obtain ⟨u, first, second⟩ := steps.split
  obtain ⟨⟩ | ⟨step, _⟩ := second
  exact ⟨u, first, step.1⟩

/-- A chain that ends at a leaf outruns exactly the numbers below its length. -/
theorem StepsIn.outruns_iff {leaf : Leaf} (steps : g.StepsIn n t v)
    (ends : g.stage v = .ok (.leaf leaf)) : g.Outruns m t ↔ m < n := by
  constructor
  · rintro ⟨u, other, staged⟩
    by_contra longer
    obtain ⟨k, rfl⟩ := Nat.exists_eq_add_of_le (Nat.le_of_not_lt longer)
    obtain ⟨w, first, second⟩ := other.split
    obtain rfl := steps.unique first
    cases second with
    | refl => simp [ends] at staged
    | head step _ => simp [step.1] at ends
  · exact steps.outruns

/-- A chain that does not outrun a number ends. -/
theorem settles_of_not_outruns (within : ¬ g.Outruns n t) :
    ∃ k v r, g.StepsIn k t v ∧ g.Settles v r := by
  induction n generalizing t with
  | zero =>
    obtain ⟨u, step⟩ | ⟨r, settles⟩ := step_or_settles g t
    · exact (within (outruns_zero.2 step.1)).elim
    · exact ⟨0, t, r, .refl t, settles⟩
  | succ n ih =>
    obtain ⟨u, step⟩ | ⟨r, settles⟩ := step_or_settles g t
    · have next : ¬ g.Outruns n u := fun outruns => within (outruns_succ.2 ⟨u, step, outruns⟩)
      obtain ⟨k, v, r, steps, settles⟩ := ih next
      exact ⟨k + 1, v, r, .head step steps, settles⟩
    · exact ⟨0, t, r, .refl t, settles⟩

/-- A chain that comes back to a type, or to one that is alike, goes on for ever. -/
theorem outruns_of_revisit {k : Nat} (steps : g.StepsIn (k + 1) u t) (alike : u.Alike t) (n : Nat) :
    g.Outruns n t := by
  -- after a round of `k + 1` steps a type comes that is alike, and the next round can start
  have rounds : ∀ m, ∃ v, g.StepsIn (m * (k + 1)) t v := by
    intro m
    induction m generalizing t u with
    | zero => exact ⟨t, by simpa using .refl t⟩
    | succ m ih =>
      obtain ⟨t', round, alike'⟩ := steps.alike alike
      obtain ⟨v, rest⟩ := ih round alike'
      exact ⟨v, Nat.succ_mul m _ ▸ Nat.add_comm _ _ ▸ round.trans rest⟩
  obtain ⟨v, long⟩ := rounds (n + 1)
  exact long.outruns (Nat.lt_of_lt_of_le n.lt_succ_self (Nat.le_mul_of_pos_right _ k.succ_pos))

end Graph

end AdlTables
