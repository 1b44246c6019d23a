import AdlTables.Expansion
import AdlTables.Dialect
import AdlTables.Naming
import AdlTables.Journal

/-! # Columns

The column of a field: what it holds, whether it may be null, and the table it points into. What it
holds is found by expanding the field's type step by step. The number of steps is bounded by a
budget that grows with the graph and with the type, and a type that comes back is refused at once.
-/

namespace AdlTables

/-- The column that a foreign key points to. -/
structure ForeignKeyRef where
  table : String
  column : String
deriving DecidableEq, Repr

/-- The column of a field; the type says that it is not null where it is not. -/
structure ColumnSpec where
  type : String
  nullable : Bool
  foreignKey : Option ForeignKeyRef
deriving DecidableEq, Repr

namespace Graph

/-- The standard type of time that a name stands for. -/
def temporal? (name : ScopedName) : Option Leaf :=
  if name.same .instant then some .timestamp
  else if name.same .localDate then some .date
  else if name.same .localDateTime then some .localTimestamp
  else none

/-- The problem with a type whose expansion does not end. -/
def refuseExpansion (whole : TypeExpr) (chain : List Value) : Except Fault Leaf := do
  let text ← whole.label .short
  let _ ← text.say
  Fault.raise (.endlessExpansion text (← TypeExpr.allTexts chain))

/-- What a type holds, found in at most `budget` steps. `chain` are the texts of the types expanded
so far on the way from `whole`, `seen` these types. -/
def leafWithin (g : Graph) (whole : TypeExpr) (budget : Nat) (chain : List Value)
    (seen : List TypeExpr) (t : TypeExpr) : Journaled Leaf := do
  match ← (t.shape : Except Fault Shape) with
  | .primitive kind _ =>
    if kind.key?.isSome then return .primitive kind else Journaled.fail (.mishap .wrongKind)
  | .optional _ => return .optional
  | .declared name _ =>
    if let some leaf := temporal? name then return leaf
    let found ← g.resolve name
    match found.decl.body with
    | .struct _ _ => return .reference
    | .union _ fields => return if isEnumeration fields then .enumeration else .reference
    | .newtype _ _ | .typeAlias _ _ =>
      let text ← t.label .short
      if !t.isKey then Journaled.fail (.mishap .wrongKind)
      else if seen.any t.same then refuseExpansion whole (chain ++ [text])
      else match budget with
        | 0 => refuseExpansion whole (chain ++ [text])
        | budget + 1 =>
          match ← (g.expand t : Except Fault (Option TypeExpr)) with
          | none => return .reference
          | some next =>
            let shown ← text.say
            let nextShown ← (← next.label .short).say
            Journaled.note .debug ("Expanded " ++ shown ++ " to " ++ nextShown)
            g.leafWithin whole budget (chain ++ [text]) (t :: seen) next

/-- The number of steps that the expansion of a type may take. -/
def expansionBudget (g : Graph) (t : TypeExpr) : Nat :=
  g.renamingCount * (t.size + 1)

def leaf (g : Graph) (t : TypeExpr) : Journaled Leaf :=
  g.leafWithin t (g.expansionBudget t) [] [] t

/-- The column type that a dialect gives a type, nullable or not. -/
def baseColumnType (g : Graph) (p : DialectProfile) (t : TypeExpr) : Journaled String := do
  return p.spell (← g.leaf t)

/-- The table that a type is a key of, if it is one; a key of anything but a table is noted. -/
def foreignKey (g : Graph) (t : TypeExpr) : Journaled (Option ForeignKeyRef) := do
  match ← (t.shape : Except Fault Shape) with
  | .declared name args =>
    if !name.same .dbKey then return none
    match args with
    | [arg] =>
      match ← (arg.shape : Except Fault Shape) with
      | .optional _ => t.complain .keyOfOptional
      | .primitive _ _ =>
        let shown ← (← t.label .short).say
        Journaled.note .warning (shown ++ " does not reference a declaration, no foreign key")
        return none
      | .declared target _ =>
        let found ← g.resolve target
        if found.decl.table.isNone then
          let shown ← (← t.label .short).say
          let targetShown ← target.say
          Journaled.note .warning
            (shown ++ " references " ++ targetShown
              ++ ", which has no DbTable annotation, no foreign key")
          return none
        let table ← found.decl.tableName
        return some ⟨table, "id"⟩
    | args => t.complain (.keyArity args.length)
  | _ => return none

/-- The column of a type. An optional type gives a nullable column of the type inside, which must
not be optional in turn. -/
def columnSpec (g : Graph) (p : DialectProfile) (t : TypeExpr) : Journaled ColumnSpec := do
  match ← (t.shape : Except Fault Shape) with
  | .optional inner =>
    if (← (inner.shape : Except Fault Shape)).isOptional then t.complain .nestedOptional
    else
      let type ← g.baseColumnType p inner
      return ⟨type, true, ← g.foreignKey inner⟩
  | _ =>
    let type ← g.baseColumnType p t
    return ⟨type ++ " not null", false, ← g.foreignKey t⟩

end Graph

end AdlTables
