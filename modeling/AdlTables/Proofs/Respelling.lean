import AdlTables.Proofs.Budget
import AdlTables.Proofs.Column
import AdlTables.Proofs.Normal
import AdlTables.Standard

/-! # Interchanging the spellings of optional types

A column does not depend on how the optional types on its way are spelled. A type and its normal
form are expanded side by side. What the two expansions remember differs: two types of one normal
form may be different types, so that the expansion of normal forms may find a return that the other
one does not see. Whoever returns in this sense goes on for ever, since the rounds between repeat,
so the other expansion is refused later, and in the same way.
-/

namespace AdlTables

namespace Graph

variable {g : Graph} {t t' u v whole : TypeExpr} {text : Value} {texts chain : List Value}
  {seen : List TypeExpr} {budget : Nat}

/-- A round of an expansion that goes on, from a type to the next one, with the text of the first:
both types can be written, and the first can be remembered. -/
structure Round (g : Graph) (t : TypeExpr) (text : Value) (u : TypeExpr) : Prop where
  step : g.Step t u
  isKey : t.isKey
  label : t.label .short = .ok text
  sayable : text.isSayable
  next : ∃ text', u.label .short = .ok text' ∧ text'.isSayable

/-- Rounds one after another, with the texts of the types that are expanded. -/
inductive Rounds (g : Graph) : List Value → TypeExpr → TypeExpr → Prop
  | refl (t : TypeExpr) : Rounds g [] t t
  | head {t u v : TypeExpr} {text : Value} {texts : List Value} : g.Round t text u →
    Rounds g texts u v → Rounds g (text :: texts) t v

theorem Rounds.trans {more : List Value} (first : g.Rounds texts t u) (second : g.Rounds more u v) :
    g.Rounds (texts ++ more) t v := by
  induction first with
  | refl _ => exact second
  | head round _ ih => exact .head round (ih second)

private theorem say_of_isSayable {v : Value} (sayable : v.isSayable) : v.say = .ok v.display :=
  if_pos sayable

private theorem isSayable_of_say {v : Value} {s : String} (said : v.say = .ok s) : v.isSayable := by
  rw [Value.say] at said
  split at said
  · assumption
  · cases said

namespace Round

variable (round : g.Round t text u)

include round

private theorem outcome_again (again : seen.any t.same) :
    (g.leafWithin whole budget chain seen t).outcome = refuseExpansion whole (chain ++ [text]) := by
  rw [outcome_leafWithin]
  simp [round.step.1, round.label, round.isKey, again]

private theorem outcome_spent :
    (g.leafWithin whole 0 chain seen t).outcome = refuseExpansion whole (chain ++ [text]) := by
  rw [outcome_leafWithin]
  simp [round.step.1, round.label, round.isKey]

private theorem outcome_goes_on (new : seen.any t.same = false) :
    (g.leafWithin whole (budget + 1) chain seen t).outcome =
      (g.leafWithin whole budget (chain ++ [text]) (t :: seen) u).outcome := by
  obtain ⟨text', labelled, sayable⟩ := round.next
  rw [outcome_leafWithin]
  simp [round.step.1, round.step.2, round.label, round.isKey, new, labelled,
    say_of_isSayable round.sayable, say_of_isSayable sayable]

end Round

/-- An expansion with more rounds before it than its budget is refused after some of them. -/
theorem Rounds.refused (rounds : g.Rounds texts t v) (long : budget < texts.length)
    (whole : TypeExpr) (chain : List Value) (seen : List TypeExpr) :
    ∃ done, done ≠ [] ∧ done <+: texts ∧
      (g.leafWithin whole budget chain seen t).outcome = refuseExpansion whole (chain ++ done) := by
  induction rounds generalizing budget chain seen with
  | refl _ => exact absurd long (Nat.not_lt_zero _)
  | @head t u v text texts round _ ih =>
    by_cases again : seen.any t.same
    · exact ⟨[text], by simp, by simp, round.outcome_again again⟩
    cases budget with
    | zero => exact ⟨[text], by simp, by simp, round.outcome_spent⟩
    | succ budget =>
      obtain ⟨done, _, part, refused⟩ := ih (Nat.lt_of_succ_lt_succ long) _ _
      refine ⟨text :: done, by simp, by simpa using part, ?_⟩
      rw [round.outcome_goes_on (by simpa using again), refused, List.append_assoc,
        List.singleton_append]

/-- A type and one that is alike have the same rounds. -/
theorem Round.alike (round : g.Round t text u) (alike : t.Alike t') :
    ∃ text' u', g.Round t' text' u' ∧ u.Alike u' ∧ text.Like text' := by
  obtain ⟨u', step, next⟩ := round.step.alike alike
  obtain ⟨text', labelled, like⟩ := (TypeExpr.ShowsLike.of_alike alike).exists_right round.label
  obtain ⟨_, shown, sayable⟩ := round.next
  obtain ⟨_, shown', likeNext⟩ := (TypeExpr.ShowsLike.of_alike next).exists_right shown
  exact ⟨text', u', ⟨step, TypeExpr.isKey_alike alike ▸ round.isKey, labelled,
    like.2 ▸ round.sayable, _, shown', likeNext.2 ▸ sayable⟩, next, like⟩

/-- A round goes on between normal forms as well. -/
theorem Round.normal (round : g.Round t text u) :
    ∃ text', g.normal.Round t.normal text' u.normal ∧ text.Like text' := by
  obtain ⟨_, staged, rfl⟩ := (stage_normal g t).exists_right round.step.1
  obtain ⟨_, expanded, rfl⟩ := (expand_normal round.step.1).exists_right round.step.2
  obtain ⟨text', labelled, like⟩ := t.showsLike_normal.exists_right round.label
  obtain ⟨_, shown, sayable⟩ := round.next
  obtain ⟨_, shown', likeNext⟩ := u.showsLike_normal.exists_right shown
  exact ⟨text', ⟨⟨staged, expanded⟩, t.isKey_normal ▸ round.isKey, labelled, like.2 ▸ round.sayable,
    _, shown', likeNext.2 ▸ sayable⟩, like⟩

/-- A round between normal forms is one between the types. -/
theorem Round.of_normal (round : g.normal.Round t.normal text v) :
    ∃ text' u, g.Round t text' u ∧ v = u.normal ∧ text'.Like text := by
  obtain ⟨_, staged, rfl⟩ := (stage_normal g t).exists_left round.step.1
  obtain ⟨next, expanded, same⟩ := (expand_normal staged).exists_left round.step.2
  obtain ⟨u, rfl, rfl⟩ := Option.map_eq_some_iff.1 same.symm
  obtain ⟨text', labelled, like⟩ := t.showsLike_normal.exists_left round.label
  obtain ⟨_, shown, sayable⟩ := round.next
  obtain ⟨_, shown', likeNext⟩ := u.showsLike_normal.exists_left shown
  exact ⟨text', u, ⟨⟨staged, expanded⟩, t.isKey_normal ▸ round.isKey, labelled,
    like.2 ▸ round.sayable, _, shown', likeNext.2 ▸ sayable⟩, rfl, like⟩

end Graph

/-- Types of which the normal forms are alike. -/
def TypeExpr.Akin (t t' : TypeExpr) : Prop :=
  t.normal.Alike t'.normal

namespace Graph

variable {g : Graph} {t t' u v whole : TypeExpr} {text : Value} {texts chain chain' : List Value}
  {seen : List TypeExpr} {budget : Nat}

private theorem Round.akin (round : g.Round t text u) (akin : t.Akin t') :
    ∃ text' u', g.Round t' text' u' ∧ u.Akin u' ∧ text.Like text' := by
  obtain ⟨_, normal, like⟩ := round.normal
  obtain ⟨_, _, other, alike, like'⟩ := normal.alike akin
  obtain ⟨text', u', round', rfl, like''⟩ := other.of_normal
  exact ⟨text', u', round', alike, (like.trans like').trans like''.symm⟩

private theorem Rounds.akin (rounds : g.Rounds texts t v) (akin : t.Akin t') :
    ∃ texts' v', g.Rounds texts' t' v' ∧ v.Akin v' ∧ List.Forall₂ Value.Like texts texts' := by
  induction rounds generalizing t' with
  | refl _ => exact ⟨[], t', .refl t', akin, .nil⟩
  | head round _ ih =>
    obtain ⟨text', u', round', next, like⟩ := round.akin akin
    obtain ⟨texts', v', rounds', last, likes⟩ := ih next
    exact ⟨text' :: texts', v', .head round' rounds', last, .cons like likes⟩

/-- Rounds that come back to a type, up to the spelling of optionals, repeat as often as wanted. -/
theorem Rounds.recur (rounds : g.Rounds texts u t) (some : texts ≠ []) (akin : u.Akin t) (n : Nat) :
    ∃ more v, g.Rounds more t v ∧ n ≤ more.length ∧ ∀ x ∈ more, ∃ y ∈ texts, y.Like x := by
  induction n generalizing u t texts with
  | zero => exact ⟨[], t, .refl t, Nat.zero_le _, by simp⟩
  | succ n ih =>
    obtain ⟨texts', t', round, akin', likes⟩ := rounds.akin akin
    have length := likes.length_eq
    have some' : texts' ≠ [] := by
      rintro rfl
      exact some (List.length_eq_zero_iff.1 length)
    obtain ⟨more, v, rest, long, known⟩ := ih round some' akin'
    have origin : ∀ x ∈ texts', ∃ y ∈ texts, y.Like x := fun _ => exists_of_forall₂ likes
    refine ⟨texts' ++ more, v, round.trans rest, ?_, fun x member => ?_⟩
    · have positive := List.length_pos_iff.2 some'
      rw [List.length_append]
      omega
    · obtain here | later := List.mem_append.1 member
      · exact origin x here
      · obtain ⟨y, among, like⟩ := known x later
        obtain ⟨z, among', like'⟩ := origin y among
        exact ⟨z, among', like'.trans like⟩

def AllTexts (values : List Value) : Prop :=
  ∀ v ∈ values, v.text?.isSome

private theorem allTexts_of_texts {values : List Value} (texts : AllTexts values) :
    ∃ ss, TypeExpr.allTexts values = .ok ss := by
  refine Outcome.mapM_of_forall fun v member => ?_
  obtain ⟨s, rfl⟩ := Value.text?_isSome.1 (texts v member)
  exact ⟨s, rfl⟩

private theorem allTexts_of_not_texts {values : List Value} (other : ¬ AllTexts values) :
    TypeExpr.allTexts values = .error (.mishap .wrongKind) := by
  rw [TypeExpr.allTexts]
  induction values with
  | nil => exact (other (by simp [AllTexts])).elim
  | cons v rest ih =>
    rw [List.mapM_cons]
    cases v with
    | text s =>
      have other' : ¬ AllTexts rest := fun texts => other (List.forall_mem_cons.2 ⟨rfl, texts⟩)
      rw [ih other']
      rfl
    | _ => rfl

private theorem texts_iff_of_like (likes : List.Forall₂ Value.Like chain chain') :
    AllTexts chain ↔ AllTexts chain' := by
  induction likes with
  | nil => exact Iff.rfl
  | cons first _ ih => simp only [AllTexts, List.forall_mem_cons, first.1] at ih ⊢; rw [ih]

/-- Refusals of a type and its normal form are of one kind if both or neither of the chains that
they report are texts. -/
theorem refuseExpansion_normal (whole : TypeExpr) (texts : AllTexts chain ↔ AllTexts chain') :
    Match Eq (refuseExpansion whole chain) (refuseExpansion whole.normal chain') := by
  rw [refuseExpansion, refuseExpansion]
  refine whole.showsLike_normal.bind fun v v' like => like.say.bind fun _ _ _ => ?_
  by_cases all : AllTexts chain
  · obtain ⟨ss, made⟩ := allTexts_of_texts all
    obtain ⟨ss', made'⟩ := allTexts_of_texts (texts.1 all)
    rw [made, made']
    exact .error (congrArg (FaultKind.problem .expansion) (by simp [Problem.shown, like.2]))
  · rw [allTexts_of_not_texts all, allTexts_of_not_texts (mt texts.2 all)]
    exact .error rfl

/-- The types that an expansion remembers come earlier on its way, and its chain holds the texts of
all types since. -/
def Remembers (g : Graph) (chain : List Value) (seen : List TypeExpr) (t : TypeExpr) : Prop :=
  ∀ u ∈ seen, ∃ texts, texts ≠ [] ∧ texts ⊆ chain ∧ g.Rounds texts u t

private theorem Remembers.goes_on (remembers : g.Remembers chain seen t)
    (round : g.Round t text u) : g.Remembers (chain ++ [text]) (t :: seen) u := by
  intro v member
  obtain rfl | before := List.mem_cons.1 member
  · exact ⟨[text], by simp, by simp, .head round (.refl u)⟩
  · obtain ⟨texts, some, among, rounds⟩ := remembers v before
    refine ⟨texts ++ [text], by simp, ?_, rounds.trans (.head round (.refl u))⟩
    exact List.append_subset.2 ⟨List.subset_append_of_subset_left _ among, by simp⟩

/-- Where the expansion of a normal form is refused because it returns, that of the type itself is
refused too, now or later. -/
theorem leafWithin_normal_of_return (remembers : g.Remembers chain seen t)
    (likes : List.Forall₂ Value.Like chain chain')
    (again : (seen.map TypeExpr.normal).any t.normal.same) :
    Match Eq (g.leafWithin whole budget chain seen t).outcome
      (g.normal.leafWithin whole.normal budget chain' (seen.map TypeExpr.normal)
        t.normal).outcome := by
  obtain ⟨w, isNormal, same⟩ := List.any_eq_true.1 again
  obtain ⟨u, member, rfl⟩ := List.mem_map.1 isNormal
  obtain ⟨texts, some, among, rounds⟩ := remembers u member
  obtain ⟨more, v, ahead, long, known⟩ := rounds.recur some (.of_same same) (budget + 1)
  obtain ⟨done, started, part, refused⟩ := ahead.refused long whole chain seen
  cases ahead with
  | refl _ => exact absurd long (Nat.not_succ_le_zero _)
  | @head _ u _ text more round _ =>
    obtain ⟨text', round', like⟩ := round.normal
    rw [refused, round'.outcome_again again]
    refine refuseExpansion_normal whole ?_
    rw [← texts_iff_of_like (List.rel_append likes (.cons like .nil))]
    obtain ⟨rest, rfl⟩ : ∃ rest, done = text :: rest := by
      obtain ⟨_, whole⟩ := part
      cases done with
      | nil => exact (started rfl).elim
      | cons x rest => exact ⟨rest, by rw [(List.cons.inj whole).1]⟩
    constructor
    · intro all v member
      refine all v ((List.mem_append.1 member).elim (List.mem_append_left _) fun last => ?_)
      rw [List.mem_singleton.1 last]
      exact List.mem_append_right _ List.mem_cons_self
    · intro all v member
      obtain before | later := List.mem_append.1 member
      · exact all v (List.mem_append_left _ before)
      · -- the texts of the rounds ahead are like those since the return, which the chain holds
        obtain ⟨y, isText, like⟩ := known v (part.subset later)
        exact like.1 ▸ all y (List.mem_append_left _ (among isText))

/-- A type and its normal form expand to the same leaf, or are refused in the same way. -/
theorem leafWithin_normal (remembers : g.Remembers chain seen t)
    (likes : List.Forall₂ Value.Like chain chain') :
    Match Eq (g.leafWithin whole budget chain seen t).outcome
      (g.normal.leafWithin whole.normal budget chain' (seen.map TypeExpr.normal)
        t.normal).outcome := by
  induction budget using Nat.strongRecOn generalizing chain chain' seen t with
  | _ budget ih =>
  by_cases again' : (seen.map TypeExpr.normal).any t.normal.same
  · exact leafWithin_normal_of_return remembers likes again'
  have again : ¬ seen.any t.same := by
    intro again
    obtain ⟨u, member, same⟩ := List.any_eq_true.1 again
    exact again' (List.any_eq_true.2 ⟨_, List.mem_map_of_mem member, TypeExpr.same_normal same⟩)
  rw [outcome_leafWithin, outcome_leafWithin]
  refine (stage_normal g t).bind_of_eq ?_
  rintro stage _ staged - rfl
  cases stage with
  | leaf leaf => exact .ok rfl
  | renamed =>
    refine t.showsLike_normal.bind_of_eq fun text text' labelled _ like => ?_
    have likes' := List.rel_append likes (.cons like .nil)
    rw [t.isKey_normal]
    cases isKey : t.isKey with
    | false => exact .error rfl
    | true =>
    simp only [Bool.not_true, Bool.false_eq_true, ↓reduceIte, again, again']
    cases budget with
    | zero => exact refuseExpansion_normal whole (texts_iff_of_like likes')
    | succ budget =>
      refine (expand_normal staged).bind_of_eq ?_
      rintro next _ expanded - rfl
      cases next with
      | none => exact .ok rfl
      | some u =>
        refine like.say.bind_of_eq fun _ _ said _ _ => ?_
        refine u.showsLike_normal.bind_of_eq fun shown shown' labelledNext _ likeNext => ?_
        refine likeNext.say.bind_of_eq fun _ _ saidNext _ _ => ?_
        have round : g.Round t text u := ⟨⟨staged, expanded⟩, isKey, labelled,
          isSayable_of_say said, shown, labelledNext, isSayable_of_say saidNext⟩
        exact ih budget budget.lt_succ_self (remembers.goes_on round) likes'

/-- A type and its normal form hold the same. -/
theorem leaf_normal (g : Graph) (t : TypeExpr) :
    Match Eq (g.leaf t).outcome (g.normal.leaf t.normal).outcome := by
  rw [Graph.leaf, Graph.leaf, expansionBudget, expansionBudget, renamingCount_normal,
    TypeExpr.size_normal]
  have start : g.Remembers [] [] t := by simp [Remembers]
  exact leafWithin_normal start .nil

private theorem keyTarget?_normal (t : TypeExpr) : Match Eq t.keyTarget? t.normal.keyTarget? := by
  rw [TypeExpr.keyTarget?, TypeExpr.keyTarget?]
  refine t.shape_normal.bind ?_
  rintro shape _ rfl
  cases shape with
  | primitive _ _ | optional _ => exact .ok rfl
  | declared name args =>
    dsimp only [Shape.normal]
    split
    · exact .ok rfl
    have arity (ts : List TypeExpr) : Match (Eq (α := Option ScopedName))
        (t.complain (.keyArity ts.length))
        (t.normal.complain (.keyArity (ts.map TypeExpr.normal).length)) := by
      rw [List.length_map]
      exact t.complain_normal _ .shape [] fun _ => ⟨rfl, rfl⟩
    cases args with
    | nil => exact arity []
    | cons arg rest =>
    cases rest with
    | cons second rest => exact arity (arg :: second :: rest)
    | nil =>
      refine arg.shape_normal.bind ?_
      rintro argShape _ rfl
      cases argShape with
      | optional _ => exact t.complain_normal _ .shape [] fun _ => ⟨rfl, rfl⟩
      | primitive _ _ =>
        exact t.showsLike_normal.bind fun _ _ like => like.say.bind fun _ _ _ => .ok rfl
      | declared target _ => exact .ok rfl

private theorem foreignKey_normal (g : Graph) (t : TypeExpr) :
    Match Eq (g.foreignKey t).outcome (g.normal.foreignKey t.normal).outcome := by
  rw [outcome_foreignKey, outcome_foreignKey]
  refine (keyTarget?_normal t).bind ?_
  rintro target _ rfl
  cases target with
  | none => exact .ok rfl
  | some target =>
    dsimp only
    rw [resolve_normal]
    cases g.resolve target with
    | error _ => exact .error rfl
    | ok d =>
      simp only [Functor.map, Except.map, Outcome.ok_bind, ScopedDecl.normal, Declaration.normal]
      split
      · refine t.showsLike_normal.bind fun _ _ like => like.say.bind fun _ _ _ => ?_
        exact .bind_same _ fun _ => .ok rfl
      · exact .refl (fun _ => rfl) _

private theorem inColumn_normal (t : TypeExpr) :
    Match (fun x x' => x' = (x.1.normal, x.2)) t.inColumn t.normal.inColumn := by
  rw [TypeExpr.inColumn, TypeExpr.inColumn]
  refine t.shape_normal.bind ?_
  rintro shape _ rfl
  cases shape with
  | primitive _ _ | declared _ _ => exact .ok rfl
  | optional inner =>
    refine inner.shape_normal.bind ?_
    rintro innerShape _ rfl
    rw [Shape.isOptional_normal]
    split
    · exact t.complain_normal _ .shape [] fun _ => ⟨rfl, rfl⟩
    · exact .ok rfl

/-- A column does not change where a type and its graph are put into normal form. -/
theorem columnSpec_normal (g : Graph) (p : DialectProfile) (t : TypeExpr) :
    Match Eq (g.columnSpec p t).outcome (g.normal.columnSpec p t.normal).outcome := by
  rw [outcome_columnSpec, outcome_columnSpec]
  refine (inColumn_normal t).bind ?_
  rintro ⟨u, nullable⟩ _ rfl
  refine (leaf_normal g u).bind ?_
  rintro leaf _ rfl
  refine (foreignKey_normal g u).bind ?_
  rintro key _ rfl
  exact .ok rfl

/-- Graphs and types that are equal up to the spelling of optional types give the same column, or
fail with faults of one kind. -/
theorem columnSpec_respelled {g g' : Graph} {t t' : TypeExpr} (graphs : g.normal = g'.normal)
    (types : t.normal = t'.normal) (p : DialectProfile) :
    (g.columnSpec p t).outcome.mapError Fault.kind =
      (g'.columnSpec p t').outcome.mapError Fault.kind := by
  rw [(columnSpec_normal g p t).mapError_kind, (columnSpec_normal g' p t').mapError_kind, graphs,
    types]

namespace EitherSpelling

def optional (isPrimitive : Bool) (t : TypeExpr) : TypeExpr :=
  if isPrimitive then .primitive "Nullable" [t] else .reference .maybe [t]

/-- Boxes, which have a table, and another name for optionals. -/
def boxes (isPrimitive : Bool) : Graph := ⟨Standard.modules ++ [(.text "m", Standard.moduleOf "m" [
  Standard.declare "Perhaps" (.typeAlias [.text "T"] (optional isPrimitive (.parameter "T"))),
  (.text "Box", ⟨.text "Box", .struct [.text "T"] [Standard.field "item" (.parameter "T")], [],
    some TableRequest.plain⟩)])]⟩

/-- An optional of an optional under another name. -/
def perhaps (isPrimitive : Bool) : TypeExpr :=
  optional isPrimitive (.reference ⟨.text "m", .text "Perhaps"⟩ [Standard.text])

/-- An optional key of a box of optionals. -/
def key (isPrimitive : Bool) : TypeExpr :=
  optional isPrimitive (.reference .dbKey
    [.reference ⟨.text "m", .text "Box"⟩ [optional (!isPrimitive) Standard.text]])

end EitherSpelling

open EitherSpelling

/-- Two columns found under one spelling are found under the other. -/
theorem columns_under_either_spelling :
    ((boxes false).columnSpec Dialect.postgres.profile (perhaps false)).outcome.mapError
        Fault.kind = .ok ⟨"json", true, none⟩ ∧
      ((boxes false).columnSpec Dialect.postgres.profile (key false)).outcome.mapError
        Fault.kind = .ok ⟨"text", true, some ⟨"box", "id"⟩⟩ := by
  have column : ((boxes true).columnSpec Dialect.postgres.profile (perhaps true)).outcome =
      .ok ⟨"json", true, none⟩ :=
    Outcome.toOption_eq_some.1 (by decide +kernel)
  have keyColumn : ((boxes true).columnSpec Dialect.postgres.profile (key true)).outcome =
      .ok ⟨"text", true, some ⟨"box", "id"⟩⟩ :=
    Outcome.toOption_eq_some.1 (by decide +kernel)
  have graphs : (boxes false).normal = (boxes true).normal := rfl
  have first : (perhaps false).normal = (perhaps true).normal := rfl
  have second : (key false).normal = (key true).normal := rfl
  rw [columnSpec_respelled graphs first, columnSpec_respelled graphs second, column, keyColumn]
  exact ⟨rfl, rfl⟩

end Graph

end AdlTables
