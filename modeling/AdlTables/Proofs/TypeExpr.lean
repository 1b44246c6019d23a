import AdlTables.Proofs.Outcome
import AdlTables.Shape

/-! # Type expressions as trees

Properties of a type expression that hold node by node. A property of nodes is a property of what
stands at the head and of the number of arguments, since that is all that substitution keeps of a
node. A type all of whose names are texts can always be written into a message.
-/

namespace AdlTables

namespace TypeExpr

/-- Induction over a type and its arguments. -/
@[elab_as_elim, induction_eliminator]
theorem induct {motive : TypeExpr → Prop}
    (node : ∀ head args, (∀ t ∈ args, motive t) → motive (.node head args)) :
    ∀ t, motive t
  | .node head args => node head args fun t _ => induct node t

mutual

/-- Whether a property holds of every node, by its head and the number of its arguments. -/
def Everywhere (p : TypeRef → Nat → Prop) : TypeExpr → Prop
  | node head args => p head args.length ∧ EverywhereAll p args

def EverywhereAll (p : TypeRef → Nat → Prop) : List TypeExpr → Prop
  | [] => True
  | t :: rest => t.Everywhere p ∧ EverywhereAll p rest

end

section Everywhere

variable {p q : TypeRef → Nat → Prop}

mutual

/-- A property of nodes that can be checked can be checked everywhere. -/
def decideEverywhere [∀ head n, Decidable (p head n)] : ∀ t, Decidable (Everywhere p t)
  | node head args =>
    have := decideEverywhereAll args
    inferInstanceAs (Decidable (p head args.length ∧ EverywhereAll p args))

/-- The same for several expressions. -/
def decideEverywhereAll [∀ head n, Decidable (p head n)] : ∀ ts, Decidable (EverywhereAll p ts)
  | [] => inferInstanceAs (Decidable True)
  | t :: rest =>
    have := decideEverywhere t
    have := decideEverywhereAll rest
    inferInstanceAs (Decidable (Everywhere p t ∧ EverywhereAll p rest))

end

instance [∀ head n, Decidable (p head n)] (t : TypeExpr) : Decidable (t.Everywhere p) :=
  decideEverywhere t

private theorem everywhereAll_iff {ts : List TypeExpr} :
    EverywhereAll p ts ↔ ∀ t ∈ ts, t.Everywhere p := by
  induction ts with
  | nil => simp [EverywhereAll]
  | cons t rest ih => simp [EverywhereAll, ih]

@[simp] theorem everywhere_node {head : TypeRef} {args : List TypeExpr} :
    (node head args).Everywhere p ↔ p head args.length ∧ ∀ t ∈ args, t.Everywhere p := by
  rw [Everywhere, everywhereAll_iff]

theorem Everywhere.imp {t : TypeExpr} (holds : t.Everywhere p)
    (weaker : ∀ head n, p head n → q head n) : t.Everywhere q := by
  induction t with
  | node head args ih =>
    rw [everywhere_node] at holds ⊢
    exact ⟨weaker _ _ holds.1, fun t member => ih t member (holds.2 t member)⟩

/-- Substitution keeps the nodes whose heads are not bound, with as many arguments; the others give
way to the types that stand for them. -/
theorem Everywhere.substitute {bindings : Bindings} {t : TypeExpr} (holds : t.Everywhere p)
    (kept : ∀ head n, p head n → bound? bindings head = none → q head n)
    (replaced : ∀ head n t', p head n → bound? bindings head = some t' → t'.Everywhere q) :
    (t.substitute bindings).Everywhere q := by
  induction t with
  | node head args ih =>
    rw [everywhere_node] at holds
    rw [TypeExpr.substitute]
    split
    · rename_i t' bound
      exact replaced head _ t' holds.1 bound
    · rename_i free
      rw [everywhere_node, substituteAll_eq_map, List.length_map]
      refine ⟨kept head _ holds.1 free, ?_⟩
      simp only [List.mem_map, forall_exists_index, and_imp, forall_apply_eq_imp_iff₂]
      exact fun t member => ih t member (holds.2 t member)

end Everywhere

@[simp] theorem substitute_nil (t : TypeExpr) : t.substitute [] = t := by
  induction t with
  | node head args ih =>
    have free : bound? [] head = none := by cases head <;> rfl
    rw [TypeExpr.substitute, free, substituteAll_eq_map]
    exact congrArg (node head) ((List.map_congr_left ih).trans (List.map_id args))

end TypeExpr

theorem Value.text?_isSome {v : Value} : v.text?.isSome ↔ ∃ s, v = .text s := by
  cases v <;> simp [Value.text?]

namespace ScopedName

theorem isText_iff {n : ScopedName} :
    n.IsText ↔ n.moduleName.text?.isSome ∧ n.name.text?.isSome := by
  simp only [Value.text?_isSome]
  constructor
  · rintro ⟨moduleName, name, rfl⟩
    exact ⟨⟨moduleName, rfl⟩, ⟨name, rfl⟩⟩
  · rintro ⟨⟨moduleName, first⟩, ⟨name, second⟩⟩
    exact ⟨moduleName, name, congrArg₂ mk first second⟩

instance : DecidablePred IsText := fun _ => decidable_of_iff _ isText_iff.symm

theorem IsText.say {n : ScopedName} (isText : n.IsText) : ∃ s, n.say = .ok s := by
  obtain ⟨moduleName, name, rfl⟩ := isText
  exact ⟨_, rfl⟩

end ScopedName

def TypeRef.HasTextNames : TypeRef → Prop
  | primitive name => name.text?.isSome
  | parameter name => name.text?.isSome
  | reference name => name.IsText

instance : DecidablePred TypeRef.HasTextNames
  | .primitive name => inferInstanceAs (Decidable (name.text?.isSome = true))
  | .parameter name => inferInstanceAs (Decidable (name.text?.isSome = true))
  | .reference name => inferInstanceAs (Decidable name.IsText)

namespace TypeExpr

def HasTextNames (t : TypeExpr) : Prop :=
  t.Everywhere fun head _ => head.HasTextNames

instance (t : TypeExpr) : Decidable t.HasTextNames :=
  inferInstanceAs (Decidable (t.Everywhere fun head _ => head.HasTextNames))

/-- A type that can be remembered and whose text can be put into a message. -/
def Writable (t : TypeExpr) : Prop :=
  t.isKey ∧ ∃ s, t.label .short = .ok (.text s)

theorem isKeyAll_iff {ts : List TypeExpr} : isKeyAll ts ↔ ∀ t ∈ ts, t.isKey := by
  induction ts with
  | nil => simp [isKeyAll]
  | cons t rest ih => simp [isKeyAll, ih]

theorem allTexts_eq_ok {values : List Value} {ss : List String} :
    allTexts values = .ok ss ↔ values = ss.map .text := by
  rw [allTexts, Outcome.mapM_eq_ok, ← List.forall₂_eq_eq_eq, List.forall₂_map_right_iff]
  constructor <;> refine List.Forall₂.imp fun v s => ?_ <;> cases v <;> simp [Fault.breakDown]

@[simp] theorem allTexts_texts (ss : List String) : allTexts (ss.map .text) = .ok ss :=
  allTexts_eq_ok.2 rfl

theorem HasTextNames.isKey {t : TypeExpr} (texts : t.HasTextNames) : t.isKey := by
  induction t with
  | node head args ih =>
    rw [HasTextNames, everywhere_node] at texts
    rw [TypeExpr.isKey, Bool.and_eq_true, isKeyAll_iff]
    refine ⟨?_, fun t member => ih t member (texts.2 t member)⟩
    have named := texts.1
    cases head with
    | primitive name | parameter name =>
      obtain ⟨s, rfl⟩ := Value.text?_isSome.1 named
      rfl
    | reference name =>
      obtain ⟨moduleName, name, rfl⟩ := named
      rfl

private theorem labels_of_texts {args : List TypeExpr}
    (each : ∀ t ∈ args, ∃ s, t.label .short = .ok (.text s)) :
    ∃ ss : List String, labels .short args = .ok (ss.map .text) := by
  induction args with
  | nil => exact ⟨[], rfl⟩
  | cons t rest ih =>
    obtain ⟨s, first⟩ := each t List.mem_cons_self
    obtain ⟨ss, others⟩ := ih fun t' member => each t' (List.mem_cons_of_mem _ member)
    exact ⟨s :: ss, by simp [labels, first, others]⟩

theorem HasTextNames.label {t : TypeExpr} (texts : t.HasTextNames) :
    ∃ s, t.label .short = .ok (.text s) := by
  induction t with
  | node head args ih =>
    rw [HasTextNames, everywhere_node] at texts
    obtain ⟨name, headed⟩ : ∃ name, head.label .short = .ok (.text name) := by
      have named := texts.1
      cases head with
      | primitive name | parameter name =>
        obtain ⟨s, rfl⟩ := Value.text?_isSome.1 named
        exact ⟨s, rfl⟩
      | reference name =>
        obtain ⟨moduleName, name, rfl⟩ := named
        exact ⟨name, rfl⟩
    obtain ⟨ss, inner⟩ := labels_of_texts fun t member => ih t member (texts.2 t member)
    rw [TypeExpr.label, headed, inner]
    cases args.isEmpty <;> simp

theorem HasTextNames.writable {t : TypeExpr} (texts : t.HasTextNames) : t.Writable :=
  ⟨texts.isKey, texts.label⟩

end TypeExpr

def TypeRef.isOptional : TypeRef → Bool
  | primitive name => name.isText "Nullable"
  | parameter _ => false
  | reference name => name.same .maybe

theorem Shape.eq_optional_of_isOptional {s : Shape} (optional : s.isOptional) :
    ∃ inner, s = .optional inner := by
  cases s with
  | optional inner => exact ⟨inner, rfl⟩
  | primitive _ _ | declared _ _ => cases optional

namespace TypeExpr

variable {t : TypeExpr}

/-- A complaint is no result. -/
theorem complain_ne_ok {α : Type} {problem : Value → Problem} {a : α} :
    (t.complain problem : Except Fault α) ≠ .ok a := by
  simp [complain, Outcome.bind_eq_ok, Fault.raise]

/-- Nothing comes after a complaint. -/
theorem complain_bind {α β : Type} (t : TypeExpr) (problem : Value → Problem)
    (f : α → Except Fault β) : (t.complain problem >>= f) = t.complain problem := by
  rw [complain, complain]
  cases t.label .short <;> rfl

private theorem optionalArgument_eq_ok {inner : TypeExpr} :
    t.optionalArgument = .ok inner ↔ t.args = [inner] := by
  rw [optionalArgument]
  split
  · simp_all
  · rename_i other
    exact iff_of_false complain_ne_ok (other inner)

section Shape

variable {head : TypeRef} {kind : Value} {name : ScopedName} {args : List TypeExpr}

theorem shape_of_optional (optional : head.isOptional) :
    (node head args).shape = Shape.optional <$> (node head args).optionalArgument := by
  cases head with
  | primitive kind => exact if_pos optional
  | parameter name => cases optional
  | reference name => exact if_pos optional

private theorem shape_isOptional {s : Shape} (optional : head.isOptional)
    (shaped : (node head args).shape = .ok s) : ∃ inner, s = .optional inner := by
  rw [shape_of_optional optional] at shaped
  obtain ⟨inner, _, rfl⟩ := Outcome.map_eq_ok.1 shaped
  exact ⟨inner, rfl⟩

theorem shape_of_primitive (plain : (TypeRef.primitive kind).isOptional = false) :
    (node (.primitive kind) args).shape = .ok (.primitive kind args) :=
  if_neg (Bool.eq_false_iff.1 plain)

theorem shape_of_reference (plain : (TypeRef.reference name).isOptional = false) :
    (node (.reference name) args).shape = .ok (.declared name args) :=
  if_neg (Bool.eq_false_iff.1 plain)

private theorem shape_of_parameter {s : Shape} : (node (.parameter kind) args).shape ≠ .ok s := by
  simp [shape, TypeExpr.head, Outcome.bind_eq_ok, complain_ne_ok]

theorem shape_eq_optional {inner : TypeExpr} : t.shape = .ok (.optional inner) ↔
    ∃ head, t = .node head [inner] ∧ head.isOptional := by
  obtain ⟨head, args⟩ := t
  cases optional : head.isOptional with
  | true =>
    rw [shape_of_optional optional, Outcome.map_eq_ok]
    simp [optionalArgument_eq_ok, optional, TypeExpr.args]
  | false => cases head with
    | primitive kind => simp [shape_of_primitive optional, optional]
    | parameter kind => simp [shape_of_parameter, optional]
    | reference name => simp [shape_of_reference optional, optional]

theorem shape_eq_primitive : t.shape = .ok (.primitive kind args) ↔
    t = .node (.primitive kind) args ∧ (TypeRef.primitive kind).isOptional = false := by
  constructor
  · intro shaped
    obtain ⟨head, args'⟩ := t
    cases optional : head.isOptional with
    | true => obtain ⟨_, ⟨⟩⟩ := shape_isOptional optional shaped
    | false => cases head with
      | primitive kind =>
        cases (shape_of_primitive optional).symm.trans shaped
        exact ⟨rfl, optional⟩
      | parameter kind => exact (shape_of_parameter shaped).elim
      | reference name => cases (shape_of_reference optional).symm.trans shaped
  · rintro ⟨rfl, plain⟩
    exact shape_of_primitive plain

theorem shape_eq_declared : t.shape = .ok (.declared name args) ↔
    t = .node (.reference name) args ∧ name.same .maybe = false := by
  constructor
  · intro shaped
    obtain ⟨head, args'⟩ := t
    cases optional : head.isOptional with
    | true => obtain ⟨_, ⟨⟩⟩ := shape_isOptional optional shaped
    | false => cases head with
      | primitive kind => cases (shape_of_primitive optional).symm.trans shaped
      | parameter kind => exact (shape_of_parameter shaped).elim
      | reference name =>
        cases (shape_of_reference optional).symm.trans shaped
        exact ⟨rfl, optional⟩
  · rintro ⟨rfl, plain⟩
    exact shape_of_reference plain

end Shape

def IsOptional (t : TypeExpr) : Prop :=
  ∃ inner, t.shape = .ok (.optional inner)

def IsKeyOfOptional (t : TypeExpr) : Prop :=
  ∃ name arg, t = .node (.reference name) [arg] ∧ name.same .dbKey ∧ arg.IsOptional

end TypeExpr

end AdlTables
