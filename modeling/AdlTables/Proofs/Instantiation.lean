import AdlTables.Proofs.Entries
import AdlTables.Proofs.Expansion
import AdlTables.Standard

/-! # Instantiation

A substitution replaces all type parameters of a type at once. Two substitutions, one after the
other, are therefore one: the second is made in the types that the first puts in, and has its own
types for the parameters that the first leaves. A declaration that mentions none but its own
parameters leaves none, so a use of it can be expanded before or after the parameters in its
arguments are replaced. These are never taken for parameters of the declaration, whatever both are
called.
-/

namespace AdlTables

namespace Bindings

/-- Bindings with a substitution made in the types that are bound. -/
def substitute (a b : Bindings) : Bindings :=
  a.map fun x => (x.1, x.2.substitute b)

/-- Whether a head is no parameter, or one that is bound. -/
def Cover (b : Bindings) : TypeRef → Prop
  | .parameter name => (Entries.find? b name).isSome
  | _ => True

theorem Cover.exists_bound {b : Bindings} {name : Value} (cover : b.Cover (.parameter name)) :
    ∃ t, TypeExpr.bound? b (.parameter name) = some t :=
  Option.isSome_iff_exists.1 cover

private theorem substitute_ofList (params : List Value) (args : List TypeExpr) (b : Bindings) :
    substitute (Entries.ofList (params.zip args)) b =
      Entries.ofList (params.zip (args.map (TypeExpr.substitute b))) := by
  rw [substitute, ← Entries.ofList_map, List.zip_map_right]
  rfl

end Bindings

namespace TypeExpr

variable {a b : Bindings} {t : TypeExpr} {params : List Value} {args : List TypeExpr}

private theorem bound?_substitute (a b : Bindings) (head : TypeRef) :
    bound? (a.substitute b) head = (bound? a head).map (substitute b) := by
  cases head with
  | primitive _ | reference _ => rfl
  | parameter name => exact Entries.find?_map (substitute b) a name

private theorem bound?_append (a b : Bindings) (head : TypeRef) :
    bound? (a ++ b) head = (bound? a head).or (bound? b head) := by
  cases head with
  | primitive _ | reference _ => rfl
  | parameter name => exact Entries.find?_append

/-- Two substitutions are one, of the first bindings with the second substitution made in them and
of the second bindings for what the first do not bind. -/
theorem substitute_substitute (a b : Bindings) (t : TypeExpr) :
    (t.substitute a).substitute b = t.substitute (a.substitute b ++ b) := by
  induction t with
  | node head args ih =>
    have both : bound? (a.substitute b ++ b) head =
        ((bound? a head).map (substitute b)).or (bound? b head) := by
      rw [bound?_append, bound?_substitute]
    rw [substitute, substitute, both]
    cases bound? a head with
    | some t => rfl
    | none =>
      rw [Option.map_none, Option.none_or, substitute]
      cases bound? b head with
      | some t => rfl
      | none =>
        simp only [substituteAll_eq_map, List.map_map]
        exact congrArg (node head) (List.map_congr_left ih)

/-- A substitution depends on nothing but what it has for the heads in a type. -/
theorem substitute_congr (agree : t.Everywhere fun head _ => bound? a head = bound? b head) :
    t.substitute a = t.substitute b := by
  induction t with
  | node head args ih =>
    obtain ⟨same, each⟩ := everywhere_node.1 agree
    rw [substitute, substitute, same, substituteAll_eq_map, substituteAll_eq_map,
      List.map_congr_left fun t member => ih t member (each t member)]

/-- Where the first of two substitutions leaves no parameter, the second is made in what it puts
in, and nowhere else. -/
theorem substitute_substitute_of_cover (covered : t.Everywhere fun head _ => a.Cover head) :
    (t.substitute a).substitute b = t.substitute (a.substitute b) := by
  rw [substitute_substitute]
  refine substitute_congr (covered.imp fun head _ cover => ?_)
  rw [bound?_append, bound?_substitute]
  cases head with
  | primitive _ | reference _ => rfl
  | parameter name =>
    obtain ⟨t, bound⟩ := cover.exists_bound
    rw [bound, Option.map_some, Option.some_or]

mutual

/-- The type parameters in a type, each with its arguments, in the order of reading. Those in the
arguments of another one are left out: they go when that one is replaced. -/
def holes : TypeExpr → List TypeExpr
  | node (.parameter name) args => [node (.parameter name) args]
  | node (.primitive _) args | node (.reference _) args => holesAll args

/-- The type parameters in several types. -/
def holesAll : List TypeExpr → List TypeExpr
  | [] => []
  | t :: rest => t.holes ++ holesAll rest

end

private theorem holesAll_eq_flatMap (ts : List TypeExpr) : holesAll ts = ts.flatMap holes := by
  induction ts with
  | nil => rfl
  | cons t rest ih => rw [holesAll, ih, List.flatMap_cons]

/-- Where a substitution leaves no parameter, the parameters in the result are those in the types
that it puts in, as they are there. -/
theorem holes_substitute (covered : t.Everywhere fun head _ => b.Cover head) :
    (t.substitute b).holes = (t.holes.filterMap fun hole => bound? b hole.head).flatMap holes := by
  induction t with
  | node head args ih =>
    obtain ⟨cover, each⟩ := everywhere_node.1 covered
    have inner : (args.map (substitute b)).flatMap holes =
        ((args.flatMap holes).filterMap fun hole => bound? b hole.head).flatMap holes := by
      rw [List.flatMap_map, List.filterMap_flatMap, List.flatMap_assoc]
      exact List.flatMap_congr fun t member => ih t member (each t member)
    cases head with
    | primitive _ | reference _ =>
      simp only [substitute, bound?, holes, holesAll_eq_flatMap, substituteAll_eq_map]
      exact inner
    | parameter name =>
      obtain ⟨t, bound⟩ := cover.exists_bound
      rw [substitute, bound, holes, List.filterMap_cons, TypeExpr.head, bound, List.filterMap_nil,
        List.flatMap_singleton]

private theorem instantiate_eq_ok {u : TypeExpr} :
    t.instantiate b = .ok u ↔ t.isOpen b ∧ t.substitute b = u := by
  cases isOpen : t.isOpen b <;> simp [instantiate, isOpen, Fault.breakDown]

/-- Parameters can be looked up in the result of a substitution that leaves none if they can in the
types that it puts in. -/
theorem isOpen_substitute (covered : t.Everywhere fun head _ => a.Cover head)
    (each : ∀ head u, bound? a head = some u → u.isOpen b) : (t.substitute a).isOpen b := by
  induction t with
  | node head args ih =>
    obtain ⟨cover, inner⟩ := everywhere_node.1 covered
    have inside : isOpenAll b (args.map (substitute a)) := by
      rw [isOpenAll_iff, List.forall_mem_map]
      exact fun t member => ih t member (inner t member)
    rw [substitute, substituteAll_eq_map]
    cases head with
    | primitive _ | reference _ => exact inside
    | parameter name =>
      obtain ⟨u, bound⟩ := cover.exists_bound
      rw [bound]
      exact each _ u bound

/-- Parameters that are bound can be looked up. -/
theorem isOpen_of_cover (covered : t.Everywhere fun head _ => b.Cover head) : t.isOpen b := by
  induction t with
  | node head args ih =>
    obtain ⟨cover, inner⟩ := everywhere_node.1 covered
    cases head with
    | primitive _ | reference _ =>
      exact isOpenAll_iff.2 fun t member => ih t member (inner t member)
    | parameter name =>
      obtain ⟨u, bound⟩ := cover.exists_bound
      obtain ⟨known, same, -⟩ := Entries.mem_of_find? bound
      obtain ⟨key, -, isKey⟩ := Value.same_iff.1 same
      simp [isOpen, bound, isKey]

/-- Where parameters are looked up in a type depends on no type that is bound. -/
theorem isOpen_bindings (a b : Bindings) (t : TypeExpr) :
    t.isOpen (a.substitute b) = t.isOpen a := by
  refine isOpen_eq_of_bound (fun head => ?_) t
  rw [bound?_substitute, Option.isSome_map]

def MentionsOnly (params : List Value) (t : TypeExpr) : Prop :=
  t.Everywhere fun head _ => ∀ name, head = .parameter name → ∃ own ∈ params, own.Alike name

/-- Arguments for parameters that can be keys are bound to all that a type mentions. -/
theorem MentionsOnly.covered (mentions : t.MentionsOnly params)
    (keys : params.all (·.key?.isSome)) (arity : params.length = args.length) :
    t.Everywhere fun head _ => Bindings.Cover (Entries.ofList (params.zip args)) head := by
  refine mentions.imp fun head _ declared => ?_
  cases head with
  | primitive _ | reference _ => trivial
  | parameter name =>
    obtain ⟨own, member, alike⟩ := declared name rfl
    have isKey := List.all_eq_true.1 keys own member
    have same : own.same name := by
      obtain ⟨key, found⟩ := Option.isSome_iff_exists.1 isKey
      exact Value.same_iff.2 ⟨key, found, alike.key?_eq ▸ found⟩
    exact bound?_parameter (List.any_eq_true.2 ⟨own, member, same⟩) arity

end TypeExpr

namespace Graph

open TypeExpr

variable {g : Graph} {t body : TypeExpr} {params : List Value} {args : List TypeExpr}

/-- A graph whose newtypes and aliases stand for types that mention none but their own type
parameters. -/
def MentionsOwn (g : Graph) : Prop :=
  g.Every fun d => ∀ x ∈ d.body.renamed?, x.2.MentionsOnly x.1

/-- A type is a use of a newtype or an alias, with an argument for each of its parameters. -/
def Uses (g : Graph) (t : TypeExpr) (params : List Value) (body : TypeExpr) : Prop :=
  ∃ name args, t = .node (.reference name) args ∧ g.Renames name params body ∧
    params.length = args.length

theorem MentionsOwn.renames {name : ScopedName} (own : g.MentionsOwn)
    (renames : g.Renames name params body) : body.MentionsOnly params := by
  obtain ⟨d, found, renamed⟩ := renames
  exact own.resolve found _ renamed

/-- What a use stands for once a substitution is made in its arguments is what it stands for, with
the substitution made in that. -/
theorem unfold_substitute (mentions : body.MentionsOnly params)
    (arity : params.length = args.length) (name : ScopedName) (b : Bindings) :
    unfold name (args.map (substitute b)) params body =
      (·.substitute b) <$> unfold name args params body := by
  have arity' : params.length = (args.map (substitute b)).length := by rw [arity, List.length_map]
  rw [unfold, unfold, if_neg (not_not.2 arity), if_neg (not_not.2 arity'), TypeExpr.bind,
    TypeExpr.bind]
  split
  · rename_i keys
    have covered := mentions.covered keys arity
    rw [Outcome.ok_bind, Outcome.ok_bind, ← Bindings.substitute_ofList, instantiate, instantiate,
      isOpen_bindings, ← substitute_substitute_of_cover covered]
    split <;> rfl
  · rfl

/-- A use is expanded to the type that its declaration stands for, with the arguments in it. -/
theorem expand_eq_ok {u : TypeExpr} (own : g.MentionsOwn) (use : g.Uses t params body) :
    g.expand t = .ok (some u) ↔ params.all (·.key?.isSome) ∧
      body.substitute (Entries.ofList (params.zip t.args)) = u := by
  obtain ⟨name, args, rfl, renames, arity⟩ := use
  rw [expand_reference renames, Outcome.map_eq_ok]
  simp only [unfold_eq_ok, Option.some.injEq, exists_eq_right, arity, true_and, TypeExpr.args]
  refine and_congr_right fun keys => and_iff_right ?_
  exact isOpen_of_cover ((own.renames renames).covered keys arity)

/-- Replacing type parameters in the arguments of a use and expanding it can be done in either
order. -/
theorem expand_substitute (own : g.MentionsOwn) (use : g.Uses t params body) (b : Bindings) :
    g.expand (t.substitute b) = (Option.map (·.substitute b)) <$> g.expand t := by
  obtain ⟨name, args, rfl, renames, arity⟩ := use
  have kept : (node (.reference name) args).substitute b =
      node (.reference name) (args.map (substitute b)) :=
    congrArg (node _) (substituteAll_eq_map b args)
  rw [kept, expand_reference renames, expand_reference renames,
    unfold_substitute (own.renames renames) arity]
  cases unfold name args params body <;> rfl

/-- Parameters can be looked up in what a use stands for if they can in the use. -/
theorem isOpen_expand {u : TypeExpr} {b : Bindings} (own : g.MentionsOwn)
    (use : g.Uses t params body) (isOpen : t.isOpen b) (expanded : g.expand t = .ok (some u)) :
    u.isOpen b := by
  obtain ⟨keys, rfl⟩ := (expand_eq_ok own use).1 expanded
  obtain ⟨name, args, rfl, renames, arity⟩ := use
  refine isOpen_substitute ((own.renames renames).covered keys arity) fun head u bound => ?_
  exact isOpenAll_iff.1 isOpen u (mem_of_bound? bound)

/-- A use is expanded and the type parameters in it are replaced in either order, with one outcome.
Where all names are texts there is a type either way. The parameters in an expanded use are those in
the arguments that its declaration takes up, as they are there: none is taken for a parameter of the
declaration. -/
theorem expand_instantiate (own : g.MentionsOwn) (use : g.Uses t params body) (b : Bindings) :
    (∀ t', t.instantiate b = .ok t' →
      g.expand t' = (do (← g.expand t).mapM (·.instantiate b))) ∧
    (t.HasTextNames → (∀ name ∈ params, name.text?.isSome) → ∃ t' u u',
      t.instantiate b = .ok t' ∧ g.expand t' = .ok (some u') ∧
        g.expand t = .ok (some u) ∧ u.instantiate b = .ok u') ∧
    ∀ u, g.expand t = .ok (some u) → u.holes = (body.holes.filterMap fun hole =>
      bound? (Entries.ofList (params.zip t.args)) hole.head).flatMap holes := by
  have either (t' : TypeExpr) (made : t.instantiate b = .ok t') :
      g.expand t' = (do (← g.expand t).mapM (·.instantiate b)) := by
    obtain ⟨isOpen, rfl⟩ := instantiate_eq_ok.1 made
    rw [expand_substitute own use]
    cases expanded : g.expand t with
    | error _ => rfl
    | ok found => cases found with
      | none => rfl
      | some u =>
        have made := instantiate_eq_ok.2 ⟨isOpen_expand own use isOpen expanded, rfl⟩
        simp [made]
  refine ⟨either, fun texts named => ?_, fun u expanded => ?_⟩
  · have keys : params.all (·.key?.isSome) := List.all_eq_true.2 fun name member => by
      obtain ⟨s, rfl⟩ := Value.text?_isSome.1 (named name member)
      rfl
    have expanded := (expand_eq_ok own use).2 ⟨keys, rfl⟩
    have made := instantiate_eq_ok.2 ⟨texts.isOpen b, rfl⟩
    have made' := instantiate_eq_ok.2 ⟨isOpen_expand own use (texts.isOpen b) expanded, rfl⟩
    refine ⟨_, _, _, made, ?_, expanded, made'⟩
    simp [either _ made, expanded, made']
  · obtain ⟨keys, rfl⟩ := (expand_eq_ok own use).1 expanded
    obtain ⟨name, args, rfl, renames, arity⟩ := use
    exact holes_substitute ((own.renames renames).covered keys arity)

namespace Flip

/-- A reference to a declaration of the only module. -/
def refer (name : String) (args : List TypeExpr) : TypeExpr :=
  .reference (.ofTexts "m" name) args

/-- A pair of the second parameter, with an argument that goes, and of texts under the first. -/
def flipped : TypeExpr :=
  refer "Pair" [.node (.parameter (.text "B")) [.parameter "A"],
    .primitive "StringMap" [.parameter "A"]]

/-- The parameters of the alias, of which two have one name. -/
def names : List Value := [.text "A", .text "B", .text "A"]

/-- An alias for such pairs. -/
def graph : Graph := ⟨[(.text "m", Standard.moduleOf "m" [
  Standard.declare "Flip" (.typeAlias names flipped)])]⟩

/-- A use under parameters that are called as those of the alias. -/
def use : TypeExpr :=
  refer "Flip" [Standard.text, .primitive "Vector" [.parameter "B"],
    .node (.parameter (.text "A")) [.parameter "B"]]

/-- Types for the parameters of the use, one of which mentions the other parameter. -/
def bindings : Bindings := [(.text "A", Standard.text), (.text "B", .parameter "A")]

private theorem mentionsOwn : graph.MentionsOwn := by
  simp [MentionsOwn, Every, graph, Standard.moduleOf, Standard.declare, Body.renamed?, MentionsOnly,
    flipped, refer, names, TypeExpr.reference, TypeExpr.parameter, TypeExpr.primitive, Value.Alike]

end Flip

open Flip

/-- A use that shares its parameters' names with the alias is expanded with its own parameters. -/
theorem expand_flip : graph.MentionsOwn ∧ graph.Uses use names flipped ∧ use.HasTextNames ∧
    ∃ t' u u', use.instantiate bindings = .ok t' ∧ graph.expand t' = .ok (some u') ∧
      graph.expand use = .ok (some u) ∧ u.instantiate bindings = .ok u' ∧
      u.holes = [.parameter "B", .node (.parameter (.text "A")) [.parameter "B"]] ∧
      u' = refer "Pair" [.primitive "Vector" [.parameter "A"],
        .primitive "StringMap" [Standard.text]] := by
  have uses : graph.Uses use names flipped := ⟨_, _, rfl, ⟨_, rfl, rfl⟩, rfl⟩
  obtain ⟨-, square, kept⟩ := expand_instantiate mentionsOwn uses bindings
  obtain ⟨t', u, u', made, expanded', expanded, made'⟩ := square (by decide) (by decide)
  refine ⟨mentionsOwn, uses, by decide, t', u, u', made, expanded', expanded, made', ?_, ?_⟩
  · rw [kept u expanded]
    rfl
  · cases made
    cases expanded'
    rfl

end Graph

end AdlTables
