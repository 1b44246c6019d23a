import AdlTables.Proofs.Declared
import AdlTables.Column

/-! # Columns and keys

What a column is made of: the base type and the foreign key of one type, which is the type of the
field or the one inside it. A foreign key points to the id column of the table that some declaration
of the graph is annotated as.
-/

namespace AdlTables

/-- The type that a column is made of, and whether the column may be null: the type of the field, or
the one inside it, which must not be optional in turn. -/
def TypeExpr.inColumn (t : TypeExpr) : Except Fault (TypeExpr × Bool) := do
  match ← t.shape with
  | .optional inner =>
    if (← inner.shape).isOptional then t.complain .nestedOptional else return (inner, true)
  | _ => return (t, false)

/-- The declaration that a type is a key of, if it is one. -/
def TypeExpr.keyTarget? (t : TypeExpr) : Except Fault (Option ScopedName) := do
  match ← t.shape with
  | .declared name args =>
    if !name.same .dbKey then return none
    match args with
    | [arg] =>
      match ← arg.shape with
      | .optional _ => t.complain .keyOfOptional
      | .primitive _ _ =>
        let _ ← (← t.label .short).say
        return none
      | .declared target _ => return some target
    | args => t.complain (.keyArity args.length)
  | _ => return none

private theorem TypeExpr.keyTarget?_eq_some {t : TypeExpr} {target : ScopedName}
    (keyed : t.keyTarget? = .ok (some target)) :
    ∃ name args, t = .node (.reference name) [.node (.reference target) args] ∧
      name.same .dbKey := by
  obtain ⟨shape, shaped, keyed⟩ := Outcome.bind_eq_ok.1 keyed
  cases shape with
  | primitive _ _ | optional _ => cases keyed
  | declared name args =>
    obtain ⟨rfl, _⟩ := TypeExpr.shape_eq_declared.1 shaped
    dsimp only at keyed
    split at keyed
    · cases keyed
    rename_i isKey
    split at keyed
    · obtain ⟨argShape, argShaped, keyed⟩ := Outcome.bind_eq_ok.1 keyed
      cases argShape with
      | optional _ => exact (TypeExpr.complain_ne_ok keyed).elim
      | primitive _ _ => simp [Outcome.bind_eq_ok] at keyed
      | declared target args =>
        obtain ⟨rfl, _⟩ := TypeExpr.shape_eq_declared.1 argShaped
        cases keyed
        exact ⟨name, args, rfl, by simpa using isKey⟩
    · exact (TypeExpr.complain_ne_ok keyed).elim

namespace Graph

variable {g : Graph} {t : TypeExpr}

/-- A foreign key points into the table of the declaration that its type is a key of. -/
theorem outcome_foreignKey (g : Graph) (t : TypeExpr) : (g.foreignKey t).outcome = do
    let some target ← t.keyTarget? | return none
    let d ← g.resolve target
    if d.decl.table.isNone then
      let _ ← (← t.label .short).say
      let _ ← target.say
      return none
    return some ⟨← d.decl.tableName, "id"⟩ := by
  simp only [foreignKey, TypeExpr.keyTarget?, Journaled.outcome_bind, Journaled.outcome_monadLift,
    bind_assoc]
  refine bind_congr fun shape => ?_
  cases shape with
  | primitive _ _ | optional _ => rfl
  | declared name args =>
    dsimp only
    split
    · rfl
    cases args with
    | nil => exact (TypeExpr.complain_bind t _ _).symm
    | cons arg rest =>
    cases rest with
    | cons _ _ => exact (TypeExpr.complain_bind t _ _).symm
    | nil =>
      simp only [Journaled.outcome_bind, Journaled.outcome_monadLift, bind_assoc]
      refine bind_congr fun argShape => ?_
      cases argShape with
      | optional _ => exact (TypeExpr.complain_bind t _ _).symm
      | primitive _ _ =>
        simp only [Journaled.outcome_bind, Journaled.outcome_monadLift, Journaled.outcome_note,
          bind_assoc]
        rfl
      | declared target _ =>
        simp only [Journaled.outcome_bind, Journaled.outcome_monadLift]
        refine bind_congr fun d => ?_
        split <;> simp only [Journaled.outcome_bind, Journaled.outcome_monadLift,
          Journaled.outcome_note] <;> rfl

/-- A column holds what its type does and has the foreign key of its type. -/
theorem outcome_columnSpec (g : Graph) (p : DialectProfile) (t : TypeExpr) :
    (g.columnSpec p t).outcome = do
      let (u, nullable) ← t.inColumn
      let leaf ← (g.leaf u).outcome
      let key ← (g.foreignKey u).outcome
      return ⟨p.spell leaf ++ if nullable then "" else " not null", nullable, key⟩ := by
  simp only [columnSpec, baseColumnType, TypeExpr.inColumn, Journaled.outcome_bind,
    Journaled.outcome_monadLift, bind_assoc]
  refine bind_congr fun shape => ?_
  cases shape with
  | primitive _ _ | declared _ _ =>
    simp only [Journaled.outcome_bind, Journaled.outcome_pure, Outcome.ok_bind]
    rfl
  | optional inner =>
    simp only [Journaled.outcome_bind, Journaled.outcome_monadLift, bind_assoc]
    refine bind_congr fun innerShape => ?_
    split
    · exact (TypeExpr.complain_bind t _ _).symm
    · simp only [Journaled.outcome_bind, Journaled.outcome_pure, pure_bind, ↓reduceIte,
        String.append_empty, Outcome.ok_bind, Outcome.pure_eq_ok]

/-- The column of an optional type is made of the type inside. -/
theorem outcome_columnSpec_optional {inner : TypeExpr} {s : Shape} (p : DialectProfile)
    (shaped : t.shape = .ok (.optional inner)) (innerShaped : inner.shape = .ok s)
    (plain : s.isOptional = false) :
    (g.columnSpec p t).outcome = do
      let type ← (g.baseColumnType p inner).outcome
      let key ← (g.foreignKey inner).outcome
      return ⟨type, true, key⟩ := by
  simp only [columnSpec, Journaled.outcome_bind, Journaled.outcome_monadLift, shaped, innerShaped,
    plain, Outcome.ok_bind, Bool.false_eq_true, ↓reduceIte]
  rfl

/-- The column of a type that is not optional is made of the type. -/
theorem outcome_columnSpec_plain {s : Shape} (p : DialectProfile) (shaped : t.shape = .ok s)
    (plain : s.isOptional = false) :
    (g.columnSpec p t).outcome = do
      let type ← (g.baseColumnType p t).outcome
      let key ← (g.foreignKey t).outcome
      return ⟨type ++ " not null", false, key⟩ := by
  simp only [columnSpec, Journaled.outcome_bind, Journaled.outcome_monadLift, shaped,
    Outcome.ok_bind]
  cases s with
  | optional inner => cases plain
  | primitive _ _ | declared _ _ => simp only [Journaled.outcome_bind, Journaled.outcome_pure]; rfl

/-- A column has the base type and the foreign key of its type, or of the type inside where it may
be null. -/
theorem columnSpec_eq_ok {p : DialectProfile} {spec : ColumnSpec}
    (mapped : (g.columnSpec p t).outcome = .ok spec) :
    ∃ u base, (t.shape = .ok (.optional u) ∧ spec.type = base ∨
        u = t ∧ spec.type = base ++ " not null") ∧
      (g.baseColumnType p u).outcome = .ok base ∧
        (g.foreignKey u).outcome = .ok spec.foreignKey := by
  have parts := mapped
  simp only [columnSpec, Journaled.outcome_bind, Journaled.outcome_monadLift,
    Outcome.bind_eq_ok] at parts
  obtain ⟨s, shaped, rest⟩ := parts
  cases optional : s.isOptional with
  | false =>
    rw [outcome_columnSpec_plain p shaped optional, Outcome.bind_eq_ok] at mapped
    obtain ⟨base, typed, made⟩ := mapped
    obtain ⟨key, keyed, made⟩ := Outcome.bind_eq_ok.1 made
    cases made
    exact ⟨t, base, .inr ⟨rfl, rfl⟩, typed, keyed⟩
  | true =>
    obtain ⟨inner, rfl⟩ := Shape.eq_optional_of_isOptional optional
    simp only [Journaled.outcome_bind, Journaled.outcome_monadLift, Outcome.bind_eq_ok] at rest
    obtain ⟨innerShape, innerShaped, rest⟩ := rest
    cases nested : innerShape.isOptional with
    | false =>
      rw [outcome_columnSpec_optional p shaped innerShaped nested, Outcome.bind_eq_ok] at mapped
      obtain ⟨base, typed, made⟩ := mapped
      obtain ⟨key, keyed, made⟩ := Outcome.bind_eq_ok.1 made
      cases made
      exact ⟨inner, base, .inl ⟨shaped, rfl⟩, typed, keyed⟩
    | true =>
      simp only [nested, ↓reduceIte, Journaled.outcome_monadLift] at rest
      exact (TypeExpr.complain_ne_ok rest).elim

/-- A column has the foreign key of its type or of the type inside. -/
theorem columnSpec_foreignKey {p : DialectProfile} {spec : ColumnSpec}
    (mapped : (g.columnSpec p t).outcome = .ok spec) :
    ∃ u, (t.shape = .ok (.optional u) ∨ u = t) ∧
      (g.foreignKey u).outcome = .ok spec.foreignKey := by
  obtain ⟨u, _, origin, _, keyed⟩ := columnSpec_eq_ok mapped
  exact ⟨u, origin.imp And.left And.left, keyed⟩

/-- A foreign key comes from a key of a declaration that is annotated as a table, and it points to
the id column of the table that this declaration asks for. -/
theorem foreignKey_eq_some {ref : ForeignKeyRef}
    (keyed : (g.foreignKey t).outcome = .ok (some ref)) :
    ∃ name arg target args d, t = .node (.reference name) [arg] ∧ name.same .dbKey ∧
      arg = .node (.reference target) args ∧ g.resolve target = .ok d ∧ d.decl.table.isSome ∧
        d.decl.tableName = .ok ref.table ∧ ref.column = "id" := by
  rw [outcome_foreignKey, Outcome.bind_eq_ok] at keyed
  obtain ⟨target?, isKey, keyed⟩ := keyed
  cases target? with
  | none => cases keyed
  | some target =>
    obtain ⟨name, args, rfl, isDbKey⟩ := TypeExpr.keyTarget?_eq_some isKey
    obtain ⟨d, found, keyed⟩ := Outcome.bind_eq_ok.1 keyed
    split at keyed
    · simp [Outcome.bind_eq_ok] at keyed
    · rename_i annotated
      obtain ⟨table, named, made⟩ := Outcome.bind_eq_ok.1 keyed
      cases made
      exact ⟨name, _, target, args, d, rfl, isDbKey, rfl, found,
        by simpa [Option.isSome_iff_ne_none] using annotated, named, rfl⟩

end Graph

end AdlTables
