import AdlTables.TypeExpr.Print

/-! # Shapes of types

What a type expression is where columns are made: a primitive, an optional type under either of its
spellings, or a reference to a declaration. A type parameter that is still there has no shape.
-/

namespace AdlTables

/-- The shape of a type. -/
inductive Shape where
  | primitive (kind : Value) (args : List TypeExpr)
  | optional (inner : TypeExpr)
  | declared (name : ScopedName) (args : List TypeExpr)
deriving Repr

def Shape.isOptional : Shape → Bool
  | optional _ => true
  | _ => false

namespace TypeExpr

/-- Fails with a problem that names a type by its text. -/
def complain {α : Type} (t : TypeExpr) (problem : Value → Problem) : Except Fault α := do
  Fault.raise (problem (← t.label .short))

/-- The only argument of an optional type. -/
def optionalArgument (t : TypeExpr) : Except Fault TypeExpr :=
  match t.args with
  | [inner] => .ok inner
  | args => t.complain (.optionalArity args.length)

def shape (t : TypeExpr) : Except Fault Shape :=
  match t.head with
  | .primitive name =>
    if name.isText "Nullable" then do return .optional (← t.optionalArgument)
    else .ok (.primitive name t.args)
  | .reference name =>
    if name.same .maybe then do return .optional (← t.optionalArgument)
    else .ok (.declared name t.args)
  | .parameter name => do
    let _ ← name.say
    t.complain (.unboundParameter name)

end TypeExpr

end AdlTables
