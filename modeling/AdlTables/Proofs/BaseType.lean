import AdlTables.Proofs.Budget
import AdlTables.Proofs.Declared
import AdlTables.Standard

/-! # The base type of a column

The base type of a column against the chain of expansions of its type. Where all names are texts the
budget alone decides whether a type is refused, and what is not refused holds what the chain ends
at; a loop that remembers nothing does the same. The budget does not cover every chain that ends:
an alias for its own parameter is passed with each use, and a declaration may nest any number of
uses, which its name does not show.
-/

namespace AdlTables

/-- An outcome in which a report of an endless expansion counts as no result. -/
def unreported {α : Type} : Except Fault α → Except Fault (Option α)
  | .ok a => .ok (some a)
  | .error (.problem (.endlessExpansion _ _)) => .ok none
  | .error fault => .error fault

private theorem unreported_of_reportsEndless {α : Type} {x : Except Fault α}
    (reports : ReportsEndless x) : unreported x = .ok none := by
  obtain ⟨type, chain, rfl⟩ := reports
  rfl

private theorem unreported_of_not_reportsEndless {α : Type} {x : Except Fault α}
    (other : ¬ ReportsEndless x) : unreported x = some <$> x := by
  unfold unreported
  split
  · rfl
  · exact (other ⟨_, _, rfl⟩).elim
  · rfl

namespace Graph

open TypeExpr (Writable)

variable {g : Graph} {t u v : TypeExpr} {budget n : Nat} {r : Except Fault Leaf}

/-- Whether all names in the types that newtypes and aliases stand for are texts. -/
def HasTextNames (g : Graph) : Prop :=
  g.Every fun d => ∀ x ∈ d.body.renamed?, x.2.HasTextNames

instance (g : Graph) : Decidable g.HasTextNames :=
  inferInstanceAs (Decidable (g.Every fun d => ∀ x ∈ d.body.renamed?, x.2.HasTextNames))

theorem HasTextNames.step (named : g.HasTextNames) (texts : t.HasTextNames) (step : g.Step t u) :
    u.HasTextNames := by
  obtain ⟨name, args, params, body, rfl, _, _, ⟨d, found, renamed⟩, unfolded⟩ := step_iff.1 step
  obtain ⟨_, _, _, rfl⟩ := unfold_eq_ok.1 unfolded
  have bodyTexts : body.HasTextNames := named.resolve found _ renamed
  rw [TypeExpr.HasTextNames, TypeExpr.everywhere_node] at texts
  exact bodyTexts.substitute (fun _ _ named _ => named)
    fun _ _ t' _ bound => texts.2 t' (TypeExpr.mem_of_bound? bound)

theorem HasTextNames.writable (named : g.HasTextNames) (texts : t.HasTextNames) (k : Nat)
    (steps : g.StepsIn k t u) : u.Writable :=
  (steps.keeps (p := TypeExpr.HasTextNames) named.step texts).writable

/-- What a type holds, found in a number of steps without remembering any of them, if it is. -/
def leafByBudget (g : Graph) (budget : Nat) (t : TypeExpr) : Except Fault (Option Leaf) := do
  match ← g.stage t with
  | .leaf leaf => return some leaf
  | .renamed => match budget with
    | 0 => return none
    | budget + 1 => match ← g.expand t with
      | some next => g.leafByBudget budget next
      | none => return some .reference

private theorem leafByBudget_of_outruns (outruns : g.Outruns budget t) :
    g.leafByBudget budget t = .ok none := by
  induction budget generalizing t with
  | zero => simp [leafByBudget, outruns.renamed]
  | succ budget ih =>
    obtain ⟨u, step, rest⟩ := outruns_succ.1 outruns
    rw [leafByBudget, step.1]
    simpa [step.2] using ih rest

private theorem leafByBudget_of_settles (steps : g.StepsIn n t v) (settles : g.Settles v r)
    (within : ¬ g.Outruns budget t) : g.leafByBudget budget t = some <$> r := by
  induction steps generalizing budget with
  | refl t =>
    cases settles with
    | leaf staged | fault staged => cases budget <;> rw [leafByBudget, staged] <;> rfl
    | stuck staged stuck =>
      cases budget with
      | zero => exact (within (outruns_zero.2 staged)).elim
      | succ budget => rw [leafByBudget, staged]; simp [stuck]
  | @head n t u v step _ ih =>
    cases budget with
    | zero => exact (within (outruns_zero.2 step.1)).elim
    | succ budget =>
      rw [leafByBudget, step.1]
      simpa [step.2] using ih settles fun outruns => within (outruns_succ.2 ⟨u, step, outruns⟩)

namespace NestedAlias

/-- A text inside a number of uses of an alias for its own parameter. -/
def wrapped : Nat → TypeExpr
  | 0 => Standard.text
  | n + 1 => .reference (.ofTexts "m" "Same") [wrapped n]

/-- A graph with an alias for its own parameter and one for a nest of its uses. -/
def graph (n : Nat) : Graph := ⟨Standard.modules ++ [(.text "m", Standard.moduleOf "m" [
  Standard.declare "Same" (.typeAlias [.text "T"] (.parameter "T")),
  Standard.declare "Deep" (.typeAlias [] (wrapped n))])]⟩

def deep : TypeExpr := .reference (.ofTexts "m" "Deep") []

private theorem step_wrapped (n k : Nat) : (graph n).Step (wrapped (k + 1)) (wrapped k) :=
  step_iff.2 ⟨_, _, _, _, rfl, rfl, rfl, ⟨_, rfl, rfl⟩,
    unfold_eq_ok.2 ⟨rfl, rfl, rfl, rfl⟩⟩

private theorem stepsIn_wrapped (n k : Nat) : (graph n).StepsIn k (wrapped k) Standard.text := by
  induction k with
  | zero => exact .refl _
  | succ k ih => exact .head (step_wrapped n k) ih

private theorem wrapped_hasTextNames (n : Nat) : (wrapped n).HasTextNames := by
  induction n with
  | zero => decide
  | succ n ih => exact ⟨⟨_, _, rfl⟩, ih, trivial⟩

private theorem stepsIn_deep (n : Nat) : (graph n).StepsIn (n + 1) deep Standard.text := by
  refine .head (step_iff.2 ?_) (stepsIn_wrapped n n)
  exact ⟨_, _, _, _, rfl, rfl, rfl, ⟨_, rfl, rfl⟩, unfold_eq_ok.2
    ⟨rfl, rfl, (wrapped_hasTextNames n).isOpen _, TypeExpr.substitute_nil _⟩⟩

private theorem graph_hasTextNames (n : Nat) : (graph n).HasTextNames := by
  have standard : (⟨Standard.modules⟩ : Graph).HasTextNames := by decide
  intro entry member
  obtain known | new := List.mem_append.1 member
  · exact standard entry known
  · obtain rfl := List.mem_singleton.1 new
    have same : (TypeExpr.parameter "T").HasTextNames := by decide
    simp [Standard.moduleOf, Standard.declare, Body.renamed?, same, wrapped_hasTextNames]

end NestedAlias

/-- Where all names are texts, a type is refused exactly if more types on its chain are expanded
than the budget allows. Otherwise the chain ends within the budget, and what it ends at is spelled
or is the fault. The loop that remembers nothing comes to the same. -/
theorem baseColumnType_eq_chain (p : DialectProfile) (named : g.HasTextNames)
    (texts : t.HasTextNames) :
    (ReportsEndless (g.baseColumnType p t).outcome ↔ g.Outruns (g.expansionBudget t) t) ∧
    (¬ g.Outruns (g.expansionBudget t) t → ∃ n ≤ g.expansionBudget t, ∃ v r, g.StepsIn n t v ∧
      g.Settles v r ∧ (g.baseColumnType p t).outcome = p.spell <$> r) ∧
    unreported (g.baseColumnType p t).outcome =
      Option.map p.spell <$> g.leafByBudget (g.expansionBudget t) t := by
  have writable : ∀ k u, k ≤ g.expansionBudget t → g.StepsIn k t u → u.Writable :=
    fun k _ _ steps => named.writable texts k steps
  have refused : ReportsEndless (g.baseColumnType p t).outcome ↔
      g.Outruns (g.expansionBudget t) t := by
    rw [outcome_baseColumnType, reportsEndless_map, reportsEndless_leaf writable]
  have settled (within : ¬ g.Outruns (g.expansionBudget t) t) :
      ∃ n ≤ g.expansionBudget t, ∃ v r, g.StepsIn n t v ∧ g.Settles v r ∧
        (g.baseColumnType p t).outcome = p.spell <$> r := by
    obtain ⟨n, v, r, steps, settles⟩ := settles_of_not_outruns within
    have inBudget : n ≤ g.expansionBudget t :=
      Nat.le_of_not_lt fun longer => within (steps.outruns longer)
    refine ⟨n, inBudget, v, r, steps, settles, ?_⟩
    rw [outcome_baseColumnType, outcome_leaf_of_settles writable steps settles within]
  refine ⟨refused, settled, ?_⟩
  by_cases outruns : g.Outruns (g.expansionBudget t) t
  · rw [unreported_of_reportsEndless (refused.2 outruns), leafByBudget_of_outruns outruns]
    rfl
  · obtain ⟨n, _, v, r, steps, settles, outcome⟩ := settled outruns
    rw [unreported_of_not_reportsEndless (mt refused.1 outruns), outcome,
      leafByBudget_of_settles steps settles outruns]
    cases r <;> rfl

open NestedAlias

/-- A nest of three uses is expanded to the text inside. -/
theorem unreported_deep :
    (graph 3).HasTextNames ∧ deep.HasTextNames ∧
      unreported ((graph 3).baseColumnType Dialect.postgres.profile deep).outcome =
        .ok (some "text") := by
  have named := graph_hasTextNames 3
  have texts : deep.HasTextNames := by decide
  have ends : (graph 3).stage Standard.text = .ok (.leaf (.primitive (.text "String"))) := rfl
  have within : ¬ (graph 3).Outruns ((graph 3).expansionBudget deep) deep := by
    rw [(stepsIn_deep 3).outruns_iff ends]
    decide
  refine ⟨named, texts, (baseColumnType_eq_chain _ named texts).2.2.trans ?_⟩
  rw [leafByBudget_of_settles (stepsIn_deep 3) (.leaf ends) within]
  rfl

/-- A type whose chain ends at something that a column holds is refused all the same if the chain is
longer than the budget, and if the types that the report lists can be written. -/
theorem reportsEndless_iff_of_ends (p : DialectProfile) {leaf : Leaf} (steps : g.StepsIn n t v)
    (ends : g.stage v = .ok (.leaf leaf)) :
    ReportsEndless (g.baseColumnType p t).outcome ↔ g.expansionBudget t < n ∧
      ∀ k u, k ≤ g.expansionBudget t → g.StepsIn k t u → u.Writable := by
  rw [outcome_baseColumnType, reportsEndless_map]
  constructor
  · exact fun reports => (writable_of_reportsEndless (by simp [Before]) steps ends reports).2
  · rintro ⟨longer, writable⟩
    exact (reportsEndless_leaf writable).2 (steps.outruns longer)

/-- The chain of a nest of fourteen uses ends, and its budget is one step too small. -/
theorem reportsEndless_deep_iff :
    (graph 14).StepsIn 15 deep Standard.text ∧
      (graph 14).stage Standard.text = .ok (.leaf (.primitive (.text "String"))) ∧
      (ReportsEndless ((graph 14).baseColumnType Dialect.postgres.profile deep).outcome ↔
        14 < 15 ∧ ∀ k u, k ≤ 14 → (graph 14).StepsIn k deep u → u.Writable) :=
  ⟨stepsIn_deep 14, rfl, reportsEndless_iff_of_ends _ (stepsIn_deep 14) rfl⟩

/-- However deep the nest is, the budget for the alias stays the same. -/
theorem reportsEndless_deep (p : DialectProfile) (n : Nat) :
    ReportsEndless ((graph n).baseColumnType p deep).outcome ↔ 14 < n + 1 := by
  have writable k u (_ : k ≤ (graph n).expansionBudget deep) (steps : (graph n).StepsIn k deep u) :
      u.Writable := (graph_hasTextNames n).writable (by decide) k steps
  rw [outcome_baseColumnType, reportsEndless_map, reportsEndless_leaf writable]
  exact (stepsIn_deep n).outruns_iff (m := 14) rfl

/-- A chain that ends is refused. -/
theorem deep_ends_and_is_refused :
    ∃ n v leaf, (graph 14).StepsIn n deep v ∧ (graph 14).stage v = .ok (.leaf leaf) ∧
      ReportsEndless ((graph 14).baseColumnType Dialect.postgres.profile deep).outcome :=
  ⟨15, Standard.text, .primitive (.text "String"), stepsIn_deep 14, rfl,
    (reportsEndless_deep _ 14).2 (by decide)⟩

end Graph

end AdlTables
