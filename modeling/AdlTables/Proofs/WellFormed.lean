import AdlTables.Proofs.BaseType
import AdlTables.Proofs.Column

/-! # Well-formed graphs

A graph whose names are texts and whose types are applied as they are declared. Expansion keeps
types well-formed: the arguments of a use are put in for all parameters of its declaration at once,
so none is left. A well-formed type without parameters is a leaf or has a next type, and its column
can fail in no more than three ways.
-/

namespace AdlTables

namespace Graph

variable {g : Graph} {params scope : List Value} {t u : TypeExpr}

/-- A name is declared, with as many parameters if it is declared as another name for a type. -/
def Takes (g : Graph) (name : ScopedName) (count : Nat) : Prop :=
  match g.resolve name with
  | .ok d => ∀ x ∈ d.decl.body.renamed?, x.1.length = count
  | .error _ => False

instance (g : Graph) (name : ScopedName) (count : Nat) : Decidable (g.Takes name count) := by
  unfold Takes
  split <;> infer_instance

/-- What may stand at the head of a type, and with how many arguments, where some type parameters
are in scope. -/
def Admits (g : Graph) (params : List Value) : TypeRef → Nat → Prop
  | .primitive name, count => name.text?.isSome ∧ (name.isText "Nullable" → count = 1)
  | .parameter name, _ => name.text?.isSome ∧ params.any (·.same name)
  | .reference name, count => name.IsText ∧
    (name.same .maybe ∨ name.same .dbKey → count = 1) ∧ (¬ name.same .maybe → g.Takes name count)

instance (g : Graph) (params : List Value) (head : TypeRef) (count : Nat) :
    Decidable (g.Admits params head count) := by
  cases head <;> unfold Admits <;> infer_instance

/-- A type that is well-formed where some type parameters are in scope. -/
def WellFormedType (g : Graph) (params : List Value) (t : TypeExpr) : Prop :=
  t.Everywhere (g.Admits params)

instance (g : Graph) (params : List Value) (t : TypeExpr) : Decidable (g.WellFormedType params t) :=
  inferInstanceAs (Decidable (t.Everywhere (g.Admits params)))

/-- A graph all of whose names are texts, and whose newtypes and aliases stand for types that are
well-formed under their own parameters. -/
def WellFormed (g : Graph) : Prop :=
  g.Every fun d => d.name.text?.isSome ∧ ∀ x ∈ d.body.renamed?,
    (∀ name ∈ x.1, name.text?.isSome) ∧ g.WellFormedType x.1 x.2

instance (g : Graph) : Decidable g.WellFormed := by
  unfold WellFormed
  infer_instance

private theorem Admits.hasTextNames {head : TypeRef} {count : Nat}
    (admits : g.Admits params head count) : head.HasTextNames := by
  cases head <;> exact admits.1

private theorem WellFormedType.hasTextNames (typed : g.WellFormedType params t) : t.HasTextNames :=
  typed.imp fun _ _ => Admits.hasTextNames

/-- Well-formed arguments for all parameters of a well-formed type give a well-formed type. -/
theorem WellFormedType.substitute {args : List TypeExpr} (typed : g.WellFormedType params t)
    (arity : params.length = args.length) (each : ∀ arg ∈ args, g.WellFormedType scope arg) :
    g.WellFormedType scope (t.substitute (Entries.ofList (params.zip args))) := by
  refine TypeExpr.Everywhere.substitute typed (fun head count admits free => ?_)
    fun _ _ arg _ bound => each arg (TypeExpr.mem_of_bound? bound)
  cases head with
  | primitive _ | reference _ => exact admits
  | parameter name =>
    have bound := TypeExpr.bound?_parameter admits.2 arity
    simp [free] at bound

/-- What a declaration stands for is well-formed under its parameters. -/
theorem WellFormed.renames {name : ScopedName} {body : TypeExpr} (wf : g.WellFormed)
    (renames : g.Renames name params body) :
    (∀ name ∈ params, name.text?.isSome) ∧ g.WellFormedType params body := by
  obtain ⟨d, found, renamed⟩ := renames
  exact (wf.resolve found).2 _ renamed

theorem WellFormed.step (wf : g.WellFormed) (typed : g.WellFormedType scope t)
    (step : g.Step t u) : g.WellFormedType scope u := by
  obtain ⟨name, args, params, body, rfl, _, _, renames, unfolded⟩ := step_iff.1 step
  obtain ⟨arity, _, _, rfl⟩ := unfold_eq_ok.1 unfolded
  exact (wf.renames renames).2.substitute arity (TypeExpr.everywhere_node.1 typed).2

theorem WellFormed.writable (wf : g.WellFormed) (typed : g.WellFormedType scope t) {k : Nat}
    (steps : g.StepsIn k t u) : u.Writable :=
  (steps.keeps (p := g.WellFormedType scope) wf.step typed).hasTextNames.writable

theorem Takes.resolve {name : ScopedName} {count : Nat} (takes : g.Takes name count) :
    ∃ d, g.resolve name = .ok d ∧ ∀ x ∈ d.decl.body.renamed?, x.1.length = count := by
  unfold Takes at takes
  split at takes
  · rename_i d found
    exact ⟨d, found, takes⟩
  · exact takes.elim

theorem WellFormedType.takes {name : ScopedName} {args : List TypeExpr}
    (typed : g.WellFormedType scope (.node (.reference name) args))
    (isOther : name.same .maybe = false) : g.Takes name args.length :=
  (TypeExpr.everywhere_node.1 typed).1.2.2 (by simp [isOther])

/-- The type inside a well-formed optional type is well-formed. -/
theorem WellFormedType.inner {inner : TypeExpr} (typed : g.WellFormedType scope t)
    (shaped : t.shape = .ok (.optional inner)) : g.WellFormedType scope inner := by
  obtain ⟨head, rfl, _⟩ := TypeExpr.shape_eq_optional.1 shaped
  exact (TypeExpr.everywhere_node.1 typed).2 inner List.mem_cons_self

/-- A well-formed type without parameters has a shape. -/
theorem WellFormedType.shape_eq_ok (typed : g.WellFormedType [] t) : ∃ s, t.shape = .ok s := by
  obtain ⟨head, args⟩ := t
  have admits := (TypeExpr.everywhere_node.1 typed).1
  cases optional : head.isOptional with
  | true =>
    have one : args.length = 1 := by
      cases head with
      | primitive name => exact admits.2 optional
      | parameter name => cases optional
      | reference name => exact admits.2.1 (.inl optional)
    obtain ⟨inner, rfl⟩ := List.length_eq_one_iff.1 one
    exact ⟨.optional inner, TypeExpr.shape_eq_optional.2 ⟨head, rfl, optional⟩⟩
  | false => cases head with
    | primitive name => exact ⟨.primitive name args, TypeExpr.shape_eq_primitive.2 ⟨rfl, optional⟩⟩
    | parameter name => simp [Admits] at admits
    | reference name => exact ⟨.declared name args, TypeExpr.shape_eq_declared.2 ⟨rfl, optional⟩⟩

/-- A well-formed type without parameters is a leaf or another name for a type. -/
theorem WellFormedType.stage_eq_ok (typed : g.WellFormedType [] t) : ∃ s, g.stage t = .ok s := by
  obtain ⟨shape, shaped⟩ := typed.shape_eq_ok
  rw [stage, shaped, Outcome.ok_bind]
  cases shape with
  | primitive kind args =>
    obtain ⟨rfl, _⟩ := TypeExpr.shape_eq_primitive.1 shaped
    obtain ⟨s, rfl⟩ := Value.text?_isSome.1 (TypeExpr.everywhere_node.1 typed).1.1
    exact ⟨_, rfl⟩
  | optional inner => exact ⟨_, rfl⟩
  | declared name args =>
    obtain ⟨rfl, isOther⟩ := TypeExpr.shape_eq_declared.1 shaped
    obtain ⟨d, found, _⟩ := (typed.takes isOther).resolve
    simp only [found, Outcome.ok_bind]
    split
    · exact ⟨_, rfl⟩
    · split <;> exact ⟨_, rfl⟩

/-- A well-formed type without parameters is a leaf or has a next type. -/
theorem WellFormed.progress (wf : g.WellFormed) (typed : g.WellFormedType [] t) :
    (∃ leaf, g.stage t = .ok (.leaf leaf)) ∨ ∃ u, g.Step t u := by
  obtain ⟨stage, staged⟩ := typed.stage_eq_ok
  cases stage with
  | leaf leaf => exact .inl ⟨leaf, staged⟩
  | renamed =>
    obtain ⟨name, args, params, body, rfl, isOther, timeless, renames⟩ := stage_eq_renamed.1 staged
    obtain ⟨texts, bodyTyped⟩ := wf.renames renames
    obtain ⟨d, found, renamed⟩ := renames
    obtain ⟨d', found', arity⟩ := (typed.takes isOther).resolve
    obtain rfl := Except.ok.inj (found.symm.trans found')
    have keys : params.all (·.key?.isSome) := List.all_eq_true.2 fun name member => by
      obtain ⟨s, rfl⟩ := Value.text?_isSome.1 (texts name member)
      rfl
    have unfolded : unfold name args params body =
        .ok (body.substitute (Entries.ofList (params.zip args))) :=
      unfold_eq_ok.2 ⟨arity _ renamed, keys, bodyTyped.hasTextNames.isOpen _, rfl⟩
    exact .inr ⟨_, step_iff.2
      ⟨name, args, params, body, rfl, isOther, timeless, ⟨d, found, renamed⟩, unfolded⟩⟩

/-- The chain of a well-formed type ends at a leaf if it ends. -/
theorem WellFormed.settles (wf : g.WellFormed) (typed : g.WellFormedType [] t)
    {r : Except Fault Leaf} (settles : g.Settles t r) : ∃ leaf, r = .ok leaf := by
  obtain ⟨leaf, staged⟩ | ⟨u, step⟩ := wf.progress typed
  · exact ⟨leaf, settles.unique (.leaf staged)⟩
  · exact (settles.not_step step).elim

/-- The base type of a well-formed type is refused as endless or given. -/
theorem WellFormed.baseColumnType (wf : g.WellFormed) (typed : g.WellFormedType [] t)
    (p : DialectProfile) : ReportsEndless (g.baseColumnType p t).outcome ∨
      ∃ type, (g.baseColumnType p t).outcome = .ok type := by
  have writable k u (_ : k ≤ g.expansionBudget t) (steps : g.StepsIn k t u) : u.Writable :=
    wf.writable typed steps
  rw [outcome_baseColumnType, reportsEndless_map, reportsEndless_leaf writable]
  by_cases outruns : g.Outruns (g.expansionBudget t) t
  · exact .inl outruns
  · obtain ⟨n, v, r, steps, settles⟩ := settles_of_not_outruns outruns
    obtain ⟨leaf, rfl⟩ := wf.settles
      (steps.keeps (p := g.WellFormedType []) wf.step typed) settles
    exact .inr ⟨p.spell leaf, by rw [outcome_leaf_of_settles writable steps settles outruns]; rfl⟩

theorem WellFormed.tableName (wf : g.WellFormed) {name : ScopedName} {d : ScopedDecl}
    (found : g.resolve name = .ok d) : ∃ table, d.decl.tableName = .ok table := by
  obtain ⟨s, named⟩ := Value.text?_isSome.1 (wf.resolve found).1
  rw [Declaration.tableName, named]
  split
  · split <;> exact ⟨_, rfl⟩
  · exact ⟨_, rfl⟩

/-- A well-formed type points into a table or into none, unless it is a key of an optional type. -/
theorem WellFormed.foreignKey (wf : g.WellFormed) (typed : g.WellFormedType [] t) :
    (∃ key, (g.foreignKey t).outcome = .ok key) ∨
      t.IsKeyOfOptional ∧ ∃ s, t.label .short = .ok (.text s) ∧
        (g.foreignKey t).outcome = .error (.problem (.keyOfOptional (.text s))) := by
  obtain ⟨s, labelled⟩ := typed.hasTextNames.label
  obtain ⟨shape, shaped⟩ := typed.shape_eq_ok
  rw [Graph.foreignKey]
  simp only [Journaled.outcome_bind, Journaled.outcome_monadLift, shaped, Outcome.ok_bind]
  cases shape with
  | primitive _ _ | optional _ => exact .inl ⟨none, rfl⟩
  | declared name args =>
    obtain ⟨rfl, isOther⟩ := TypeExpr.shape_eq_declared.1 shaped
    by_cases isKey : name.same .dbKey
    · obtain ⟨⟨_, single, _⟩, each⟩ := TypeExpr.everywhere_node.1 typed
      obtain ⟨arg, rfl⟩ := List.length_eq_one_iff.1 (single (.inr isKey))
      have argTyped : g.WellFormedType [] arg := each arg List.mem_cons_self
      obtain ⟨shape, argShaped⟩ := argTyped.shape_eq_ok
      simp only [isKey, Bool.not_true, Bool.false_eq_true, ↓reduceIte, Journaled.outcome_bind,
        Journaled.outcome_monadLift, argShaped, Outcome.ok_bind]
      cases shape with
      | optional inner =>
        refine .inr ⟨⟨name, arg, rfl, isKey, inner, argShaped⟩, s, labelled, ?_⟩
        simp [TypeExpr.complain, labelled, Fault.raise]
      | primitive _ _ =>
        refine .inl ⟨none, ?_⟩
        simp [labelled]
      | declared target _ =>
        obtain ⟨rfl, isOther⟩ := TypeExpr.shape_eq_declared.1 argShaped
        obtain ⟨d, found, _⟩ := (argTyped.takes isOther).resolve
        obtain ⟨table, named⟩ := wf.tableName found
        obtain ⟨targetShown, shown⟩ := (TypeExpr.everywhere_node.1 argTyped).1.1.say
        refine .inl ?_
        simp only [found, labelled, shown, named, Outcome.ok_bind, Journaled.outcome_bind,
          Journaled.outcome_monadLift]
        split <;> exact ⟨_, rfl⟩
    · exact .inl ⟨none, by simp [isKey]⟩

/-- What is made of the base type and the foreign key of a well-formed type is given or refused for
one of two reasons. -/
theorem WellFormed.column (wf : g.WellFormed) (typed : g.WellFormedType [] t) (p : DialectProfile)
    (make : String → Option ForeignKeyRef → ColumnSpec) {x : Except Fault ColumnSpec}
    (made : x = do
      let type ← (g.baseColumnType p t).outcome
      let key ← (g.foreignKey t).outcome
      return make type key) :
    (∃ spec, x = .ok spec) ∨ ReportsEndless x ∨ t.IsKeyOfOptional ∧ ∃ s,
      t.label .short = .ok (.text s) ∧ x = .error (.problem (.keyOfOptional (.text s))) := by
  obtain endless | ⟨type, based⟩ := wf.baseColumnType typed p
  · exact .inr (.inl (made ▸ reportsEndless_bind.2 (.inl endless)))
  rw [based, Outcome.ok_bind] at made
  obtain ⟨key, keyed⟩ | ⟨ofOptional, s, labelled, refused⟩ := wf.foreignKey typed
  · exact .inl ⟨make type key, by rw [made, keyed]; rfl⟩
  · exact .inr (.inr ⟨ofOptional, s, labelled, by rw [made, refused]; rfl⟩)

/-- The column of a well-formed type without parameters is given, or it is refused for one of three
reasons: the expansion is reported as endless, an optional type is directly in another, or a key is
one of an optional type. -/
theorem columnSpec_of_wellFormed (p : DialectProfile) (wf : g.WellFormed)
    (typed : g.WellFormedType [] t) :
    (∃ spec, (g.columnSpec p t).outcome = .ok spec) ∨
    ReportsEndless (g.columnSpec p t).outcome ∨
    (∃ inner s, t.shape = .ok (.optional inner) ∧ inner.IsOptional ∧
      t.label .short = .ok (.text s) ∧
      (g.columnSpec p t).outcome = .error (.problem (.nestedOptional (.text s)))) ∨
    ∃ key s, (t.shape = .ok (.optional key) ∨ key = t) ∧ key.IsKeyOfOptional ∧
      key.label .short = .ok (.text s) ∧
      (g.columnSpec p t).outcome = .error (.problem (.keyOfOptional (.text s))) := by
  obtain ⟨shape, shaped⟩ := typed.shape_eq_ok
  cases optional : shape.isOptional with
  | false =>
    have made := outcome_columnSpec_plain (g := g) p shaped optional
    obtain given | endless | ⟨ofOptional, s, labelled, refused⟩ := wf.column typed p _ made
    · exact .inl given
    · exact .inr (.inl endless)
    · exact .inr (.inr (.inr ⟨t, s, .inr rfl, ofOptional, labelled, refused⟩))
  | true =>
    obtain ⟨inner, rfl⟩ := Shape.eq_optional_of_isOptional optional
    have innerTyped := typed.inner shaped
    obtain ⟨innerShape, innerShaped⟩ := innerTyped.shape_eq_ok
    cases nested : innerShape.isOptional with
    | false =>
      have made := outcome_columnSpec_optional (g := g) p shaped innerShaped nested
      obtain given | endless | ⟨ofOptional, s, labelled, refused⟩ := wf.column innerTyped p _ made
      · exact .inl given
      · exact .inr (.inl endless)
      · exact .inr (.inr (.inr ⟨inner, s, .inl shaped, ofOptional, labelled, refused⟩))
    | true =>
      obtain ⟨innermost, rfl⟩ := Shape.eq_optional_of_isOptional nested
      obtain ⟨s, labelled⟩ := typed.hasTextNames.label
      refine .inr (.inr (.inl ⟨inner, s, shaped, ⟨innermost, innerShaped⟩, labelled, ?_⟩))
      simp [columnSpec, shaped, innerShaped, nested, TypeExpr.complain, labelled, Fault.raise]

open NestedAlias in
/-- An optional nest of three uses of an alias has a column. -/
theorem columnSpec_optional_deep :
    (graph 3).WellFormed ∧ (graph 3).WellFormedType [] (.primitive "Nullable" [deep]) ∧
      ∃ spec, ((graph 3).columnSpec Dialect.postgres.profile
        (.primitive "Nullable" [deep])).outcome = .ok spec := by
  have wf : (graph 3).WellFormed := by decide
  have typed : (graph 3).WellFormedType [] (.primitive "Nullable" [deep]) := by decide
  have outer : (TypeExpr.primitive "Nullable" [deep]).shape = .ok (.optional deep) := rfl
  have declared : deep.shape = .ok (.declared (.ofTexts "m" "Deep") []) := rfl
  refine ⟨wf, typed, ?_⟩
  obtain given | endless | ⟨inner, _, shaped, ⟨_, nested⟩, _⟩ | ⟨key, _, part, ofOptional, _⟩ :=
    columnSpec_of_wellFormed Dialect.postgres.profile wf typed
  · exact given
  · have noKey : ((graph 3).foreignKey deep).outcome = .ok none := rfl
    rw [outcome_columnSpec_optional _ outer declared rfl, reportsEndless_bind, reportsEndless_deep]
      at endless
    simp [noKey] at endless
  · obtain rfl : deep = inner := by simpa [outer] using shaped
    simp [declared] at nested
  · obtain ⟨name, arg, rfl, _⟩ := ofOptional
    obtain inside | whole := part
    · simp only [outer, Except.ok.injEq, Shape.optional.injEq] at inside
      simp [deep, TypeExpr.reference] at inside
    · simp [TypeExpr.primitive] at whole

end Graph

end AdlTables
