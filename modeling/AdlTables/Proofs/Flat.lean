import Mathlib.Data.List.Perm.Subperm
import AdlTables.Proofs.BaseType
import AdlTables.Proofs.Entries

/-! # Expansion where arguments are flat

A graph is flat if no newtype or alias passes a newtype or an alias on to the declaration that it
stands for. There the heads along a chain follow a function on declarations until an argument of the
type is taken out. So a declaration that is expanded twice before comes back for ever, and a chain
that ends expands every declaration at most once before it goes on with an argument, which is
smaller than the type. The budget covers all such chains: what it refuses has no end.
-/

namespace AdlTables

def TypeRef.isParameter : TypeRef → Bool
  | parameter _ => true
  | _ => false

def TypeRef.isReference : TypeRef → Bool
  | reference _ => true
  | _ => false

private theorem TypeRef.isParameter_of_isReference {head : TypeRef} (headed : head.isReference) :
    head.isParameter = false := by
  cases head <;> first | rfl | cases headed

/-- Types with the same head and as many arguments. -/
def TypeExpr.SameTop (t u : TypeExpr) : Prop :=
  t.head = u.head ∧ t.args.length = u.args.length

namespace TypeExpr

variable {t u v : TypeExpr} {params : List Value} {args args' : List TypeExpr}

theorem SameTop.symm (same : t.SameTop u) : u.SameTop t :=
  ⟨same.1.symm, same.2.symm⟩

theorem SameTop.trans (first : t.SameTop u) (second : u.SameTop v) : t.SameTop v :=
  ⟨first.1.trans second.1, first.2.trans second.2⟩

private theorem size_le_sizeAll {ts : List TypeExpr} (member : t ∈ ts) : t.size ≤ sizeAll ts := by
  induction ts with
  | nil => cases member
  | cons u rest ih =>
    rw [sizeAll]
    obtain rfl | later := List.mem_cons.1 member
    · omega
    · have := ih later
      omega

theorem size_pos (t : TypeExpr) : 0 < t.size := by
  obtain ⟨head, args⟩ := t
  rw [size]
  omega

private theorem size_lt_of_mem_args (member : u ∈ t.args) : u.size < t.size := by
  obtain ⟨head, args⟩ := t
  have : u.size ≤ sizeAll args := size_le_sizeAll member
  rw [size]
  omega

/-- A head that is no parameter stays, with its arguments replaced. -/
theorem substitute_of_keeps (keeps : t.head.isParameter = false) (bindings : Bindings) :
    t.substitute bindings = .node t.head (t.args.map (substitute bindings)) := by
  obtain ⟨head, args⟩ := t
  cases head with
  | parameter _ => cases keeps
  | primitive _ | reference _ => exact congrArg _ (substituteAll_eq_map bindings args)

/-- A type keeps its head, or it is a parameter that gives way to an argument. -/
theorem substitute_cases (t : TypeExpr) (params : List Value) (args : List TypeExpr) :
    t.substitute (Entries.ofList (params.zip args)) ∈ args ∨
      (t.substitute (Entries.ofList (params.zip args))).head = t.head := by
  obtain ⟨head, inner⟩ := t
  rw [substitute]
  split
  · rename_i bound
    exact .inl (mem_of_bound? bound)
  · exact .inr rfl

/-- Which parameters are bound depends on their names only, where there are as many arguments. -/
theorem bound?_isSome_congr (arity : params.length = args.length)
    (arity' : params.length = args'.length) (head : TypeRef) :
    (bound? (Entries.ofList (params.zip args)) head).isSome =
      (bound? (Entries.ofList (params.zip args')) head).isSome := by
  have named {args : List TypeExpr} (arity : params.length = args.length) (name : Value) :
      (bound? (Entries.ofList (params.zip args)) (.parameter name)).isSome =
        params.any (·.same name) := by
    rw [bound?, Entries.find?_ofList, Option.isSome_map, Bool.eq_iff_iff, List.find?_isSome,
      ← List.any_eq_true, List.any_reverse]
    nth_rewrite 2 [← List.map_fst_zip (Nat.le_of_eq arity)]
    rw [List.any_map]
    rfl
  cases head with
  | primitive _ | reference _ => rfl
  | parameter name => rw [named arity, named arity']

end TypeExpr

namespace Graph

/-- What a newtype or an alias stands for: its parameters and its body. -/
abbrev Rule := List Value × TypeExpr

/-- Whether the body of a rule has a head of its own, rather than that of an argument. -/
def Rule.KeepsHead (rule : Rule) : Prop :=
  rule.2.head.isParameter = false

/-- Rules of which only the last may take an argument out. -/
def IsStretch (rules : List Rule) : Prop :=
  ∀ rule ∈ rules.dropLast, rule.KeepsHead

variable {g : Graph} {t t' u u' v w : TypeExpr} {rule : Rule} {rules more : List Rule} {m n : Nat}

private theorem isStretch_singleton (rule : Rule) : IsStretch [rule] := by
  simp [IsStretch]

private theorem isStretch_cons :
    IsStretch (rule :: rules) ↔ (rules ≠ [] → rule.KeepsHead) ∧ IsStretch rules := by
  cases rules <;> simp [IsStretch]

/-- Before the last use of a rule in a stretch every rule keeps its head. -/
theorem IsStretch.keep (stretch : IsStretch (rules ++ rule :: more)) :
    ∀ r ∈ rules, r.KeepsHead := by
  rw [IsStretch, List.dropLast_append_cons, List.forall_mem_append] at stretch
  exact stretch.1

/-- Whether a type is headed by a reference to a newtype or an alias. -/
def isRenaming (g : Graph) (t : TypeExpr) : Bool :=
  match t.head with
  | .reference name => match g.resolve name with
    | .ok d => d.decl.body.renamed?.isSome
    | .error _ => false
  | _ => false

/-- A graph in which no newtype or alias stands for a reference with an argument that is headed by
a reference to a newtype or an alias. -/
def Flat (g : Graph) : Prop :=
  g.Every fun d => ∀ rule ∈ d.body.renamed?,
    rule.2.head.isReference → ∀ arg ∈ rule.2.args, ¬ g.isRenaming arg

instance (g : Graph) : Decidable g.Flat := by
  unfold Flat
  infer_instance

private theorem isRenaming_of_stage (staged : g.stage t = .ok .renamed) : g.isRenaming t := by
  obtain ⟨name, args, params, body, rfl, _, _, d, found, renamed⟩ := stage_eq_renamed.1 staged
  simp [isRenaming, TypeExpr.head, found, renamed]

private theorem isReference_of_isRenaming (isRenaming : g.isRenaming t) : t.head.isReference := by
  unfold Graph.isRenaming at isRenaming
  split at isRenaming
  · rename_i name headed
    rw [headed]
    rfl
  · cases isRenaming

private theorem isRenaming_congr (same : t.head = u.head) : g.isRenaming t = g.isRenaming u := by
  rw [isRenaming, isRenaming, same]

/-- The rules of a graph, one for each newtype and each alias. -/
def allRules (g : Graph) : List Rule :=
  (g.modules.flatMap (·.2.decls)).filterMap fun (_, d) => d.body.renamed?

private theorem length_allRules (g : Graph) : g.allRules.length = g.renamingCount := by
  rw [allRules, List.length_filterMap_eq_countP, renamingCount]

private theorem mem_allRules {name : ScopedName} (renames : g.Renames name rule.1 rule.2) :
    rule ∈ g.allRules := by
  obtain ⟨d, found, renamed⟩ := renames
  obtain ⟨entry, inGraph, e, inModule, same⟩ := holds_of_resolve found
  rw [← same] at renamed
  exact List.mem_filterMap.2 ⟨e, List.mem_flatMap.2 ⟨entry, inGraph, inModule⟩, renamed⟩

private theorem renamingCount_pos (staged : g.stage t = .ok .renamed) : 0 < g.renamingCount := by
  obtain ⟨name, args, params, body, rfl, _, _, renames⟩ := stage_eq_renamed.1 staged
  have member : (params, body) ∈ g.allRules := mem_allRules renames
  rw [← length_allRules]
  exact List.length_pos_of_mem member

def StepBy (g : Graph) (rule : Rule) (t u : TypeExpr) : Prop :=
  ∃ name args, t = .node (.reference name) args ∧ name.same .maybe = false ∧
    temporal? name = none ∧ g.Renames name rule.1 rule.2 ∧
      unfold name args rule.1 rule.2 = .ok u

private theorem step_iff_stepBy : g.Step t u ↔ ∃ rule, g.StepBy rule t u := by
  rw [step_iff]
  constructor
  · rintro ⟨name, args, params, body, step⟩
    exact ⟨(params, body), name, args, step⟩
  · rintro ⟨⟨params, body⟩, name, args, step⟩
    exact ⟨name, args, params, body, step⟩

namespace StepBy

theorem step (step : g.StepBy rule t u) : g.Step t u :=
  step_iff_stepBy.2 ⟨rule, step⟩

private theorem mem (step : g.StepBy rule t u) : rule ∈ g.allRules := by
  obtain ⟨_, _, _, _, _, renames, _⟩ := step
  exact mem_allRules renames

/-- A rule that keeps its head leads to its own body, whatever the arguments. -/
theorem top (step : g.StepBy rule t u) (keeps : rule.KeepsHead) : u.SameTop rule.2 := by
  obtain ⟨name, args, rfl, _, _, _, unfolded⟩ := step
  obtain ⟨_, _, _, rfl⟩ := unfold_eq_ok.1 unfolded
  rw [TypeExpr.substitute_of_keeps keeps]
  exact ⟨rfl, List.length_map _⟩

/-- A rule that keeps its head leads to types with the same top. -/
theorem sameTop (step : g.StepBy rule t u) (step' : g.StepBy rule t' u') (keeps : rule.KeepsHead) :
    u.SameTop u' :=
  (step.top keeps).trans (step'.top keeps).symm

/-- A rule that applies to a type applies to every type with the same top. -/
theorem transfer (step : g.StepBy rule t u) (same : t.SameTop t') : ∃ u', g.StepBy rule t' u' := by
  obtain ⟨name, args, rfl, isOther, timeless, renames, unfolded⟩ := step
  obtain ⟨head', args'⟩ := t'
  obtain ⟨rfl, length⟩ := same
  obtain ⟨arity, keys, isOpen, rfl⟩ := unfold_eq_ok.1 unfolded
  have arity' : rule.1.length = args'.length := arity.trans length
  have alsoOpen : rule.2.isOpen (Entries.ofList (rule.1.zip args')) :=
    TypeExpr.isOpen_eq_of_bound (TypeExpr.bound?_isSome_congr arity arity') rule.2 ▸ isOpen
  exact ⟨_, name, args', rfl, isOther, timeless, renames,
    unfold_eq_ok.2 ⟨arity', keys, alsoOpen, rfl⟩⟩

end StepBy

/-- A type expands to another by rules, one after another. -/
inductive Run (g : Graph) : List Rule → TypeExpr → TypeExpr → Prop
  | refl (t : TypeExpr) : Run g [] t t
  | head {rule : Rule} {rules : List Rule} {t u v : TypeExpr} :
    g.StepBy rule t u → Run g rules u v → Run g (rule :: rules) t v

namespace Run

private theorem stepsIn (run : g.Run rules t u) : g.StepsIn rules.length t u := by
  induction run with
  | refl t => exact .refl t
  | head step _ ih => exact .head step.step ih

theorem subset (run : g.Run rules t u) : rules ⊆ g.allRules := by
  induction run with
  | refl t => exact List.nil_subset _
  | head step _ ih => exact List.cons_subset.2 ⟨step.mem, ih⟩

theorem split (run : g.Run (rules ++ more) t v) : ∃ u, g.Run rules t u ∧ g.Run more u v := by
  induction rules generalizing t with
  | nil => exact ⟨t, .refl t, run⟩
  | cons rule rules ih =>
    obtain ⟨⟩ | ⟨step, rest⟩ := run
    obtain ⟨u, first, second⟩ := ih rest
    exact ⟨u, .head step first, second⟩

theorem append (run : g.Run rules t u) (next : g.Run more u v) : g.Run (rules ++ more) t v := by
  induction run with
  | refl t => exact next
  | head step _ ih => exact .head step (ih next)

/-- Rules that keep their heads apply one after another to every type with the same top. -/
theorem transfer (run : g.Run rules t u) (keep : ∀ rule ∈ rules, rule.KeepsHead)
    (same : t.SameTop t') : ∃ u', g.Run rules t' u' ∧ u.SameTop u' := by
  induction run generalizing t' with
  | refl t => exact ⟨t', .refl t', same⟩
  | head step _ ih =>
    rw [List.forall_mem_cons] at keep
    obtain ⟨next, step'⟩ := step.transfer same
    obtain ⟨u', rest, ends⟩ := ih keep.2 (step.sameTop step' keep.1)
    exact ⟨u', .head step' rest, ends⟩

end Run

/-- A type that can be expanded any number of times. -/
def Endless (g : Graph) (t : TypeExpr) : Prop :=
  ∀ n, ∃ u, g.StepsIn n t u

theorem Endless.outruns (endless : g.Endless t) (n : Nat) : g.Outruns n t := by
  obtain ⟨u, steps⟩ := endless (n + 1)
  exact steps.outruns n.lt_succ_self

private theorem endless_of_stepsIn (long : ∀ n, ∃ k u, n ≤ k ∧ g.StepsIn k t u) : g.Endless t := by
  intro n
  obtain ⟨k, u, longer, steps⟩ := long n
  obtain ⟨rest, rfl⟩ := Nat.exists_eq_add_of_le longer
  obtain ⟨v, first, _⟩ := steps.split
  exact ⟨v, first⟩

theorem StepsIn.endless (steps : g.StepsIn m t u) (endless : g.Endless u) : g.Endless t := by
  refine endless_of_stepsIn fun n => ?_
  obtain ⟨v, rest⟩ := endless n
  exact ⟨m + n, v, Nat.le_add_left n m, steps.trans rest⟩

/-- Where rules that keep their heads lead back to a type with the same top, they do so for ever. -/
theorem Run.endless (run : g.Run rules t u) (some : rules ≠ [])
    (keep : ∀ rule ∈ rules, rule.KeepsHead) (same : t.SameTop u) : g.Endless t := by
  have rounds (n : Nat) {t' : TypeExpr} (like : t.SameTop t') :
      ∃ v, g.StepsIn (n * rules.length) t' v := by
    induction n generalizing t' with
    | zero => exact ⟨t', by simpa using .refl t'⟩
    | succ n ih =>
      obtain ⟨u', round, like'⟩ := run.transfer keep like
      obtain ⟨v, others⟩ := ih (same.trans like')
      exact ⟨v, Nat.succ_mul n _ ▸ Nat.add_comm _ _ ▸ round.stepsIn.trans others⟩
  refine endless_of_stepsIn fun n => ?_
  obtain ⟨v, steps⟩ := rounds n ⟨rfl, rfl⟩
  exact ⟨_, v, Nat.le_mul_of_pos_right n (List.length_pos_iff.2 some), steps⟩

/-- A rule that is applied twice in a stretch is applied for ever. -/
theorem Run.nodup_or_endless (run : g.Run rules t u) (stretch : IsStretch rules) :
    rules.Nodup ∨ g.Endless t := by
  induction run with
  | refl t => exact .inl .nil
  | @head rule rules t u v step rest ih =>
    have first : g.StepsIn 1 t u := .head step.step (.refl u)
    by_cases again : rule ∈ rules
    · -- the way from the first use of the rule to the second is a round
      obtain ⟨before, after, rfl⟩ := List.append_of_mem again
      have keep : ∀ r ∈ rule :: before, r.KeepsHead := IsStretch.keep stretch
      obtain ⟨w, way, ⟨⟩ | ⟨step', _⟩⟩ := rest.split
      have round := way.append (.head step' (.refl _))
      have kept : ∀ r ∈ before ++ [rule], r.KeepsHead := by
        simpa [or_comm] using keep
      have same := step.sameTop step' (keep rule List.mem_cons_self)
      exact .inr (first.endless (round.endless (by simp) kept same))
    · obtain distinct | endless := ih (isStretch_cons.1 stretch).2
      · exact .inl (List.nodup_cons.2 ⟨again, distinct⟩)
      · exact .inr (first.endless endless)

/-- A stretch has no more rules than there are, or its type has no end. -/
theorem Run.length_le_or_endless (run : g.Run rules t u) (stretch : IsStretch rules) :
    rules.length ≤ g.renamingCount ∨ g.Endless t := by
  refine (run.nodup_or_endless stretch).imp_left fun distinct => ?_
  rw [← length_allRules]
  exact (List.subperm_of_subset distinct run.subset).length_le

/-- Whether the arguments of a type that are newtypes or aliases are smaller than a bound. -/
def Below (g : Graph) (m : Nat) (t : TypeExpr) : Prop :=
  ∀ arg ∈ t.args, g.isRenaming arg → arg.size < m

private theorem below_size (g : Graph) (t : TypeExpr) : g.Below t.size t :=
  fun _ member _ => TypeExpr.size_lt_of_mem_args member

/-- A rule that keeps its head puts in arguments of the type, and no other newtype or alias. -/
theorem Flat.below (flat : g.Flat) (below : g.Below m t) (step : g.StepBy rule t u)
    (keeps : rule.KeepsHead) (more : g.isRenaming u) : g.Below m u := by
  have headed : rule.2.head.isReference := (step.top keeps).1 ▸ isReference_of_isRenaming more
  obtain ⟨name, args, rfl, _, _, ⟨d, found, renamed⟩, unfolded⟩ := step
  obtain ⟨_, _, _, rfl⟩ := unfold_eq_ok.1 unfolded
  intro arg member isRenaming
  rw [TypeExpr.substitute_of_keeps keeps] at member
  obtain ⟨inner, inBody, rfl⟩ := List.mem_map.1 member
  obtain given | same := inner.substitute_cases rule.1 args
  · exact below _ given isRenaming
  · have plain := flat.resolve found rule renamed headed inner inBody
    exact (plain (isRenaming_congr same ▸ isRenaming)).elim

/-- A rule that does not keep its head takes an argument out. -/
theorem StepBy.mem_args (step : g.StepBy rule t u) (takes : ¬ rule.KeepsHead)
    (more : g.isRenaming u) : u ∈ t.args := by
  have headed := isReference_of_isRenaming more
  obtain ⟨name, args, rfl, _, _, _, unfolded⟩ := step
  obtain ⟨_, _, _, rfl⟩ := unfold_eq_ok.1 unfolded
  refine (rule.2.substitute_cases rule.1 args).resolve_right fun same => takes ?_
  rw [same] at headed
  exact TypeRef.isParameter_of_isReference headed

/-- A chain starts with a stretch and goes on from there, if it does, with a newtype or an alias
below the bound. -/
theorem Flat.exists_stretch (flat : g.Flat) (below : g.Below m t) (steps : g.StepsIn n t v) :
    ∃ rules w k, g.Run rules t w ∧ IsStretch rules ∧ g.StepsIn k w v ∧ n = rules.length + k ∧
      (k = 0 ∨ w.size < m) := by
  induction steps with
  | refl t => exact ⟨[], t, 0, .refl t, by simp [IsStretch], .refl t, rfl, .inl rfl⟩
  | @head n t u v step rest ih =>
    obtain ⟨rule, step⟩ := step_iff_stepBy.1 step
    have alone : g.Run [rule] t u := .head step (.refl u)
    cases rest with
    | refl => exact ⟨[rule], u, 0, alone, isStretch_singleton rule, .refl u, rfl, .inl rfl⟩
    | @head n _ next _ step' rest' =>
      have more : g.isRenaming u := isRenaming_of_stage step'.1
      by_cases keeps : rule.KeepsHead
      · obtain ⟨rules, w, k, run, stretch, others, length, smaller⟩ :=
          ih (flat.below below step keeps more)
        refine ⟨rule :: rules, w, k, .head step run, ?_, others, ?_, smaller⟩
        · exact isStretch_cons.2 ⟨fun _ => keeps, stretch⟩
        · rw [List.length_cons]
          omega
      · have taken : u ∈ t.args := step.mem_args keeps more
        exact ⟨[rule], u, n + 1, alone, isStretch_singleton rule, .head step' rest',
          Nat.add_comm _ _, .inr (below u taken more)⟩

/-- A chain with more steps than there are newtypes and aliases for each node of its type has no
end. -/
theorem Flat.endless (flat : g.Flat) (steps : g.StepsIn n t v)
    (long : g.renamingCount * t.size < n) : g.Endless t := by
  -- on the size of the type: a stretch takes the share of one node, and what follows is smaller
  induction size : t.size using Nat.strongRecOn generalizing t n with
  | ind size ih =>
    subst size
    obtain ⟨rules, w, k, run, stretch, rest, rfl, ends⟩ :=
      flat.exists_stretch (g.below_size t) steps
    obtain short | endless := run.length_le_or_endless stretch
    · have share : g.renamingCount ≤ g.renamingCount * t.size :=
        Nat.le_mul_of_pos_right _ t.size_pos
      obtain rfl | smaller := ends
      · omega
      · have shares : g.renamingCount * (w.size + 1) ≤ g.renamingCount * t.size :=
          Nat.mul_le_mul_left _ smaller
        rw [Nat.mul_succ] at shares
        exact run.stepsIn.endless (ih w.size smaller rest (by omega) rfl)
    · exact endless

namespace PingPong

/-- A graph with an alias for its own parameter, and an alias and a newtype for one another. -/
def graph : Graph := ⟨Standard.modules ++ [(.text "m", Standard.moduleOf "m" [
  Standard.declare "Same" (.typeAlias [.text "T"] (.parameter "T")),
  Standard.declare "Ping" (.typeAlias [.text "T"]
    (.reference (.ofTexts "m" "Pong") [.parameter "T"])),
  Standard.declare "Pong" (.newtype [.text "T"]
    (.reference (.ofTexts "m" "Ping") [.parameter "T"]))])]⟩

def applied (name : String) (t : TypeExpr) : TypeExpr :=
  .reference (.ofTexts "m" name) [t]

private theorem step_same (t : TypeExpr) : graph.Step (applied "Same" t) t :=
  step_iff.2 ⟨_, _, _, _, rfl, rfl, rfl, ⟨_, rfl, rfl⟩, unfold_eq_ok.2 ⟨rfl, rfl, rfl, rfl⟩⟩

private theorem step_ping (t : TypeExpr) : graph.Step (applied "Ping" t) (applied "Pong" t) :=
  step_iff.2 ⟨_, _, _, _, rfl, rfl, rfl, ⟨_, rfl, rfl⟩, unfold_eq_ok.2 ⟨rfl, rfl, rfl, rfl⟩⟩

private theorem step_pong (t : TypeExpr) : graph.Step (applied "Pong" t) (applied "Ping" t) :=
  step_iff.2 ⟨_, _, _, _, rfl, rfl, rfl, ⟨_, rfl, rfl⟩, unfold_eq_ok.2 ⟨rfl, rfl, rfl, rfl⟩⟩

private theorem endless_ping (t : TypeExpr) : graph.Endless (applied "Ping" t) := by
  intro n
  have both : (∃ u, graph.StepsIn n (applied "Ping" t) u) ∧
      ∃ u, graph.StepsIn n (applied "Pong" t) u := by
    induction n with
    | zero => exact ⟨⟨_, .refl _⟩, ⟨_, .refl _⟩⟩
    | succ n ih =>
      obtain ⟨⟨u, ping⟩, ⟨v, pong⟩⟩ := ih
      exact ⟨⟨v, .head (step_ping t) pong⟩, ⟨u, .head (step_pong t) ping⟩⟩
  exact both.1

end PingPong

/-- In a flat graph a chain that ends has no more steps than there are newtypes and aliases for each
node of its type, and what is refused has no end. Where all names are texts a type is refused
exactly if its chain has no end. -/
theorem baseColumnType_of_flat (p : DialectProfile) (flat : g.Flat) (t : TypeExpr) :
    (∀ n v r, g.StepsIn n t v → g.Settles v r → n ≤ g.renamingCount * t.size) ∧
    (ReportsEndless (g.baseColumnType p t).outcome → g.Endless t) ∧
    (g.HasTextNames → t.HasTextNames →
      (ReportsEndless (g.baseColumnType p t).outcome ↔ g.Endless t)) := by
  have ended (n : Nat) (v : TypeExpr) (r : Except Fault Leaf) (steps : g.StepsIn n t v)
      (settles : g.Settles v r) : n ≤ g.renamingCount * t.size := by
    by_contra long
    obtain ⟨u, further⟩ := flat.endless steps (Nat.lt_of_not_le long) (n + 1)
    obtain ⟨w, steps', ⟨⟩ | ⟨step, _⟩⟩ := further.split
    obtain rfl := steps.unique steps'
    exact settles.not_step step
  have refused (reports : ReportsEndless (g.baseColumnType p t).outcome) : g.Endless t := by
    rw [outcome_baseColumnType, reportsEndless_map] at reports
    obtain ⟨u, steps, staged⟩ := outruns_of_reportsEndless (by simp [Before]) reports
    have some := renamingCount_pos staged
    exact flat.endless steps (by rw [expansionBudget, Nat.mul_succ]; omega)
  refine ⟨ended, refused, fun named texts => ⟨refused, fun endless => ?_⟩⟩
  rw [outcome_baseColumnType, reportsEndless_map]
  exact (reportsEndless_leaf fun k _ _ => named.writable texts k).2 (endless.outruns _)

open PingPong

/-- A nest of two uses takes two steps, and what leads to the alias and the newtype is refused. -/
theorem baseColumnType_pingPong :
    graph.Flat ∧ 2 ≤ graph.renamingCount * (applied "Same" (applied "Same" Standard.text)).size ∧
      ReportsEndless (graph.baseColumnType Dialect.postgres.profile
        (applied "Same" (applied "Ping" Standard.text))).outcome := by
  have flat : graph.Flat := by decide
  have ends : graph.stage Standard.text = .ok (.leaf (.primitive (.text "String"))) := rfl
  have nest : graph.StepsIn 2 (applied "Same" (applied "Same" Standard.text)) Standard.text :=
    .head (step_same _) (.head (step_same _) (.refl _))
  have endless : graph.Endless (applied "Same" (applied "Ping" Standard.text)) :=
    (StepsIn.head (step_same _) (.refl _)).endless (endless_ping _)
  exact ⟨flat, (baseColumnType_of_flat Dialect.postgres.profile flat _).1 _ _ _ nest (.leaf ends),
    ((baseColumnType_of_flat _ flat _).2.2 (by decide) (by decide)).2 endless⟩

end Graph

end AdlTables
