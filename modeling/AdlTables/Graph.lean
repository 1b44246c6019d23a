import AdlTables.Declaration
import AdlTables.Text.Quoted

/-! # Declaration graphs

The modules of a run by their names, and the search for declarations in them. Of two modules of one
name the later counts, in the place of the earlier. Declarations are listed by the names of their
modules and by their keys, whatever order the modules came in.
-/

namespace AdlTables

/-- Modules by name. -/
structure Graph where
  modules : List (Value × Module)
deriving Repr, Inhabited

/-- A declaration with the name of the module that owns it. -/
structure ScopedDecl where
  moduleName : Value
  decl : Declaration
deriving Repr, Inhabited

/-- The scoped name of a declaration, by the name it gives itself. -/
def ScopedDecl.scopedName (d : ScopedDecl) : ScopedName :=
  ⟨d.moduleName, d.decl.name⟩

namespace Value

/-- The order of texts by code points. -/
def textLe (a b : Value) : Bool :=
  match a, b with
  | text s, text t => s ≤ t
  | _, _ => true

/-- A number as a fraction with a positive denominator; what is no number is zero. -/
def fraction (v : Value) : Int × Nat :=
  match v with
  | bool b => (if b then 1 else 0, 1)
  | int i => (i, 1)
  | float x => match x.view with
    | .finite negative m q =>
      let n : Int := if negative then -m else m
      if q ≥ 0 then (n * Decimal.twoTo q.toNat, 1) else (n, Decimal.twoTo (-q).toNat)
    | .infinite negative =>
      let far : Int := Decimal.twoTo 2000
      (if negative then -far else far, 1)
    | .nan => (0, 1)
  | _ => (0, 1)

def numberLe (a b : Value) : Bool :=
  a.fraction.1 * b.fraction.2 ≤ b.fraction.1 * a.fraction.2

def isNumber : Value → Bool
  | bool _ => true
  | int _ => true
  | float _ => true
  | nan _ => true
  | _ => false

def bytes? : Value → Option (List UInt8)
  | bytes bs => some bs
  | _ => none

/-- The order of bytes, the first that differ decide. -/
def bytesLe (a b : Value) : Bool :=
  !decide ((b.bytes?.getD []) < (a.bytes?.getD []))

def time? : Value → Option Timestamp
  | time t => some t
  | _ => none

/-- The order of timestamps of one form. -/
def timeLe (a b : Value) : Bool :=
  (a.time?.map Timestamp.position).getD 0 ≤ (b.time?.map Timestamp.position).getD 0

/-- The order that values have with one another, if they have one. -/
def order? (values : List Value) : Option (Value → Value → Bool) :=
  let form := values.head?.bind fun v => v.time?.map Timestamp.form
  if values.all (·.text?.isSome) then some textLe
  else if values.all isNumber then some numberLe
  else if values.all (·.bytes?.isSome) then some bytesLe
  else if form.isSome && values.all (fun v => v.time?.map Timestamp.form == form) then some timeLe
  else none

/-- Pairs in the order of their keys, which have to be comparable with one another. -/
def sortByKey {α : Type} (pairs : List (Value × α)) : Except Fault (List (Value × α)) :=
  match pairs with
  | [] => .ok []
  | [p] => .ok [p]
  | pairs => match order? (pairs.map (·.1)) with
    | some le => .ok (pairs.mergeSort fun a b => le a.1 b.1)
    | none => Fault.breakDown .wrongKind

end Value

namespace Graph

/-- The graph of modules, whose names have to be keys. -/
def ofModules (modules : List Module) : Except Fault Graph :=
  if modules.all fun m => m.name.key?.isSome then
    .ok ⟨Entries.ofList (modules.map fun m => (m.name, m))⟩
  else Fault.breakDown .wrongKind

def resolve (g : Graph) (name : ScopedName) : Except Fault ScopedDecl :=
  if name.moduleName.key?.isNone then Fault.breakDown .wrongKind
  else match Entries.find? g.modules name.moduleName with
    | none => Fault.raise (.moduleNotLoaded name)
    | some m =>
      if name.name.key?.isNone then Fault.breakDown .wrongKind
      else match Entries.find? m.decls name.name with
        | none => Fault.raise (.declarationNotFound name)
        | some decl => .ok ⟨m.name, decl⟩

def contains (g : Graph) (name : ScopedName) : Except Fault Bool :=
  if name.moduleName.key?.isNone then Fault.breakDown .wrongKind
  else match Entries.find? g.modules name.moduleName with
    | none => .ok false
    | some m =>
      if name.name.key?.isNone then Fault.breakDown .wrongKind
      else .ok (Entries.has m.decls name.name)

/-- The number of declarations that are another name for a type. -/
def renamingCount (g : Graph) : Nat :=
  (g.modules.flatMap (·.2.decls)).countP fun (_, d) => d.body.renamed?.isSome

def declsOf (entry : Value × Module) : Except Fault (List ScopedDecl) := do
  return (← Value.sortByKey entry.2.decls).map fun d => ⟨entry.1, d.2⟩

/-- All declarations, in the order of their modules' names and then of their keys. -/
def scopedDecls (g : Graph) : Except Fault (List ScopedDecl) := do
  return (← (← Value.sortByKey g.modules).mapM declsOf).flatten

end Graph

end AdlTables
