import AdlTables.Graph
import AdlTables.Shape

/-! # Expansion

One step of expansion replaces a reference to a newtype or a type alias by the type it renames, with
the arguments in place of the declaration's parameters.
-/

namespace AdlTables

/-- Which declarations a step expands. -/
inductive Renaming where
  | typeAlias
  | newtype
deriving DecidableEq, Repr

/-- The parameters and the type of a declaration of a kind of renaming. -/
def Body.renamedAs? (kind : Renaming) : Body → Option (List Value × TypeExpr)
  | typeAlias params type => if kind = .typeAlias then some (params, type) else none
  | newtype params type => if kind = .newtype then some (params, type) else none
  | _ => none

namespace TypeExpr

/-- Parameters bound to arguments, the last of those with one name. -/
def bind (params : List Value) (args : List TypeExpr) : Except Fault Bindings :=
  if params.all (·.key?.isSome) then .ok (Entries.ofList (params.zip args))
  else Fault.breakDown .wrongKind

/-- A type with its parameters replaced; parameters that are looked up have to be keys. -/
def instantiate (t : TypeExpr) (bindings : Bindings) : Except Fault TypeExpr :=
  if t.isOpen bindings then .ok (t.substitute bindings) else Fault.breakDown .wrongKind

end TypeExpr

namespace Graph

/-- The type that a reference to a declaration of a kind of renaming stands for, if it is one. -/
def expandAs (g : Graph) (kind : Renaming) (t : TypeExpr) : Except Fault (Option TypeExpr) :=
  match t.head with
  | .reference name => do
    let found ← g.resolve name
    match found.decl.body.renamedAs? kind with
    | none => return none
    | some (params, type) =>
      if params.length ≠ t.args.length then
        let _ ← name.say
        t.complain (.argumentCount name params.length t.args.length)
      else
        return some (← type.instantiate (← TypeExpr.bind params t.args))
  | _ => .ok none

/-- One step of expansion, if a type is a reference to a newtype or an alias. -/
def expand (g : Graph) (t : TypeExpr) : Except Fault (Option TypeExpr) := do
  match ← g.expandAs .typeAlias t with
  | some expanded => return some expanded
  | none => g.expandAs .newtype t

end Graph

end AdlTables
