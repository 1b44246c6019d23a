import AdlTables.TypeExpr
import AdlTables.Value.Access

/-! # The text of a type

A type is written as its unqualified name with its arguments in angle brackets. In column comments
two standard types keep their module. The text of a type whose name is no text is that name itself,
unless arguments follow; such a value cannot be an argument in turn.
-/

namespace AdlTables

/-- The form of a scoped name in running text, if it can be written. -/
def ScopedName.say (n : ScopedName) : Except Fault String := do
  return (← n.moduleName.say) ++ "." ++ (← n.name.say)

/-- How names are written. -/
inductive NameStyle where
  | short
  | comment
deriving DecidableEq, Repr

namespace TypeRef

def commentName? (name : ScopedName) : Option String :=
  ([.dbKey, .instant] : List ScopedName).find? name.same |>.map ScopedName.display

def label (style : NameStyle) : TypeRef → Except Fault Value
  | primitive name => .ok name
  | parameter name => .ok name
  | reference name => match style with
    | .short => .ok name.name
    | .comment =>
      if name.isKey then .ok (((commentName? name).map Value.text).getD name.name)
      else Fault.breakDown .wrongKind

end TypeRef

namespace TypeExpr

/-- Values that are all texts, as these. -/
def allTexts (values : List Value) : Except Fault (List String) :=
  values.mapM fun v => match v with
    | .text s => .ok s
    | _ => Fault.breakDown .wrongKind

mutual

def label (style : NameStyle) : TypeExpr → Except Fault Value
  | node head args => do
    let name ← head.label style
    if args.isEmpty then return name
    let inner ← allTexts (← labels style args)
    return .text ((← name.say) ++ "<" ++ ",".intercalate inner ++ ">")

/-- The texts of several types. -/
def labels (style : NameStyle) : List TypeExpr → Except Fault (List Value)
  | [] => .ok []
  | t :: rest => do
    let first ← t.label style
    return first :: (← labels style rest)

end

end TypeExpr

end AdlTables
