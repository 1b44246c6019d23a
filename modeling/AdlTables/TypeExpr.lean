import AdlTables.ScopedName

/-! # Type expressions

A type reference applied to type arguments. Substitution replaces every bound type parameter at
once; a parameter that is applied to arguments loses them when it is replaced.
-/

namespace AdlTables

/-- What a type expression refers to at its head. -/
inductive TypeRef where
  | primitive (name : Value)
  | parameter (name : Value)
  | reference (name : ScopedName)
deriving Repr, Inhabited

namespace TypeRef

/-- Equality as keys. -/
def same : TypeRef → TypeRef → Bool
  | primitive a, primitive b => a.same b
  | parameter a, parameter b => a.same b
  | reference a, reference b => KeyLike.same a b
  | _, _ => false

/-- Whether every name in a reference can be a key. -/
def isKey : TypeRef → Bool
  | primitive name => name.key?.isSome
  | parameter name => name.key?.isSome
  | reference name => name.isKey

end TypeRef

/-- A type reference with its arguments. -/
inductive TypeExpr where
  | node (head : TypeRef) (args : List TypeExpr)
deriving Repr, Inhabited

/-- Type parameters with the types that stand for them. -/
abbrev Bindings := List (Value × TypeExpr)

namespace TypeExpr

def head : TypeExpr → TypeRef
  | node head _ => head

def args : TypeExpr → List TypeExpr
  | node _ args => args

def primitive (name : String) (args : List TypeExpr) : TypeExpr :=
  node (.primitive (.text name)) args

def parameter (name : String) : TypeExpr :=
  node (.parameter (.text name)) []

/-- A reference to a declaration with its arguments. -/
def reference (name : ScopedName) (args : List TypeExpr) : TypeExpr :=
  node (.reference name) args

mutual

/-- The number of nodes of an expression. -/
def size : TypeExpr → Nat
  | node _ args => 1 + sizeAll args

/-- The number of nodes of several expressions. -/
def sizeAll : List TypeExpr → Nat
  | [] => 0
  | t :: rest => t.size + sizeAll rest

end

/-- The type that stands for the parameter at the head of an expression. -/
def bound? (bindings : Bindings) : TypeRef → Option TypeExpr
  | .parameter name => Entries.find? bindings name
  | _ => none

mutual

/-- An expression with every bound type parameter replaced. -/
def substitute (bindings : Bindings) : TypeExpr → TypeExpr
  | node head args => match bound? bindings head with
    | some t => t
    | none => node head (substituteAll bindings args)

/-- Expressions with every bound type parameter replaced. -/
def substituteAll (bindings : Bindings) : List TypeExpr → List TypeExpr
  | [] => []
  | t :: rest => t.substitute bindings :: substituteAll bindings rest

end

mutual

/-- Whether every type parameter that substitution looks up can be a key. -/
def isOpen (bindings : Bindings) : TypeExpr → Bool
  | node head args => match head with
    | .parameter name =>
      name.key?.isSome && ((bound? bindings head).isSome || isOpenAll bindings args)
    | _ => isOpenAll bindings args

/-- Whether this holds of every one of several expressions. -/
def isOpenAll (bindings : Bindings) : List TypeExpr → Bool
  | [] => true
  | t :: rest => t.isOpen bindings && isOpenAll bindings rest

end

mutual

/-- Equality as keys, node by node. -/
def same : TypeExpr → TypeExpr → Bool
  | node head args, node head' args' => head.same head' && sameAll args args'

def sameAll : List TypeExpr → List TypeExpr → Bool
  | [], [] => true
  | t :: rest, t' :: rest' => t.same t' && sameAll rest rest'
  | _, _ => false

end

mutual

/-- Whether every name in an expression can be a key. -/
def isKey : TypeExpr → Bool
  | node head args => head.isKey && isKeyAll args

/-- Whether every name in several expressions can be a key. -/
def isKeyAll : List TypeExpr → Bool
  | [] => true
  | t :: rest => t.isKey && isKeyAll rest

end

@[simp] theorem substituteAll_eq_map (bindings : Bindings) (ts : List TypeExpr) :
    substituteAll bindings ts = ts.map (substitute bindings) := by
  induction ts with
  | nil => rfl
  | cons t rest ih => simp [substituteAll, ih]

end TypeExpr

end AdlTables
