import AdlTables.Proofs.TypeExpr
import AdlTables.Expansion

/-! # Types that are alike

Names of a document are values, and several values may be one key. Types that differ in such values
only are alike: a graph resolves them to the same declarations, and substituting one for the other
gives types that are alike again. Expansion therefore cannot tell a type from one that equals it as
a key.
-/

namespace AdlTables

/-- Values that are equal, or equal as keys. -/
def Value.Alike (a b : Value) : Prop :=
  a = b ∨ a.same b

namespace Value.Alike

variable {a b c : Value}

theorem refl (a : Value) : a.Alike a := .inl rfl

theorem of_same (same : a.same b) : b.Alike a := by
  obtain ⟨k, left, right⟩ := Value.same_iff.1 same
  exact .inr (Value.same_iff.2 ⟨k, right, left⟩)

theorem key?_eq (alike : a.Alike b) : a.key? = b.key? := by
  obtain rfl | same := alike
  · rfl
  · obtain ⟨k, left, right⟩ := Value.same_iff.1 same
    rw [left, right]

theorem same_left (alike : a.Alike b) : a.same c = b.same c := by
  simp only [Value.same_eq_key, alike.key?_eq]

theorem same_right (alike : a.Alike b) : c.same a = c.same b := by
  simp only [Value.same_eq_key, alike.key?_eq]

private theorem find?_eq {α : Type} {entries : List (Value × α)} (alike : a.Alike b) :
    Entries.find? entries a = Entries.find? entries b := by
  simp only [Entries.find?, keyLike_same, alike.same_right]

end Value.Alike

def ScopedName.Alike (n n' : ScopedName) : Prop :=
  n.moduleName.Alike n'.moduleName ∧ n.name.Alike n'.name

theorem ScopedName.Alike.same_left {n n' other : ScopedName} (alike : n.Alike n') :
    n.same other = n'.same other := by
  simp only [ScopedName.same, alike.1.same_left, alike.2.same_left]

/-- References with names that are alike. -/
def TypeRef.Alike : TypeRef → TypeRef → Prop
  | primitive a, primitive b => a.Alike b
  | parameter a, parameter b => a.Alike b
  | reference a, reference b => a.Alike b
  | _, _ => False

theorem TypeRef.Alike.refl (head : TypeRef) : head.Alike head := by
  cases head with
  | primitive name | parameter name => exact Value.Alike.refl name
  | reference name => exact ⟨.refl _, .refl _⟩

theorem TypeRef.Alike.of_same {head head' : TypeRef} (same : head.same head') :
    head'.Alike head := by
  cases head <;> cases head' <;> simp only [TypeRef.same, Bool.false_eq_true] at same
  · exact Value.Alike.of_same same
  · exact Value.Alike.of_same same
  · exact (Bool.and_eq_true _ _ ▸ same : _ ∧ _).imp Value.Alike.of_same Value.Alike.of_same

namespace TypeExpr

/-- Types that are alike node by node. -/
inductive Alike : TypeExpr → TypeExpr → Prop
  | node {head head' : TypeRef} {args args' : List TypeExpr} :
    head.Alike head' → args.length = args'.length →
    (∀ i (h : i < args.length) (h' : i < args'.length), Alike args[i] args'[i]) →
    Alike (.node head args) (.node head' args')

private theorem Alike.of_forall₂ {head head' : TypeRef} {args args' : List TypeExpr}
    (heads : head.Alike head') (each : List.Forall₂ Alike args args') :
    Alike (.node head args) (.node head' args') :=
  .node heads each.length_eq fun _ h h' => each.get h h'

theorem alike_node_iff {head head' : TypeRef} {args args' : List TypeExpr} :
    Alike (.node head args) (.node head' args') ↔
      head.Alike head' ∧ List.Forall₂ Alike args args' := by
  constructor
  · rintro ⟨heads, length, each⟩
    exact ⟨heads, List.forall₂_iff_get.2 ⟨length, each⟩⟩
  · exact fun ⟨heads, each⟩ => .of_forall₂ heads each

theorem sameAll_iff {ts us : List TypeExpr} :
    sameAll ts us ↔ List.Forall₂ (fun t u => t.same u) ts us := by
  induction ts generalizing us with
  | nil => cases us <;> simp [sameAll]
  | cons t rest ih => cases us <;> simp [sameAll, ih]

theorem Alike.of_same {t t' : TypeExpr} (same : t.same t') : t'.Alike t := by
  induction t generalizing t' with
  | node head args ih =>
    obtain ⟨head', args'⟩ := t'
    rw [TypeExpr.same, Bool.and_eq_true, sameAll_iff] at same
    refine .of_forall₂ (.of_same same.1) (List.Forall₂.flip ?_)
    exact forall₂_imp_of_mem same.2 fun t member _ => ih t member

end TypeExpr

namespace Bindings

/-- Bindings of the same parameters to types that are alike. -/
def Alike : Bindings → Bindings → Prop :=
  List.Forall₂ fun x y => x.1 = y.1 ∧ x.2.Alike y.2

theorem Alike.put {b b' : Bindings} (alike : Alike b b') {name : Value} {t t' : TypeExpr}
    (types : t.Alike t') : Alike (Entries.put b name t) (Entries.put b' name t') := by
  induction alike with
  | nil => exact .cons ⟨rfl, types⟩ .nil
  | @cons x y b b' first rest ih =>
    simp only [Entries.put, first.1]
    split
    · exact .cons ⟨rfl, types⟩ rest
    · exact .cons first ih

theorem Alike.ofList {params : List Value} {args args' : List TypeExpr}
    (alike : List.Forall₂ TypeExpr.Alike args args') :
    Alike (Entries.ofList (params.zip args)) (Entries.ofList (params.zip args')) := by
  have each : ∀ {done done' : Bindings}, Alike done done' →
      Alike ((params.zip args).foldl (fun done entry => Entries.put done entry.1 entry.2) done)
        ((params.zip args').foldl (fun done entry => Entries.put done entry.1 entry.2) done') := by
    induction alike generalizing params with
    | nil => simp
    | cons first _ ih =>
      intro done done' given
      cases params with
      | nil => simpa using given
      | cons name params => exact ih (given.put first)
  exact each .nil

theorem Alike.bound? {b b' : Bindings} (alike : Alike b b') (head : TypeRef) :
    Option.Rel TypeExpr.Alike (TypeExpr.bound? b head) (TypeExpr.bound? b' head) := by
  cases head with
  | primitive name | reference name => exact .none
  | parameter name =>
    simp only [TypeExpr.bound?, Entries.find?]
    induction alike with
    | nil => exact .none
    | @cons x y b b' first rest ih =>
      simp only [List.find?_cons, first.1]
      split
      · exact .some first.2
      · exact ih

private theorem Alike.bound?_isSome {b b' : Bindings} (alike : Alike b b') (head : TypeRef) :
    (TypeExpr.bound? b head).isSome = (TypeExpr.bound? b' head).isSome := by
  have bound := alike.bound? head
  revert bound
  cases TypeExpr.bound? b head <;> cases TypeExpr.bound? b' head <;> simp

end Bindings

namespace TypeExpr

variable {b b' : Bindings}

theorem Alike.substitute (alike : Bindings.Alike b b') (t : TypeExpr) :
    (t.substitute b).Alike (t.substitute b') := by
  induction t with
  | node head args ih =>
    have bound := alike.bound? head
    rw [TypeExpr.substitute, TypeExpr.substitute]
    cases left : bound? b head <;> cases right : bound? b' head <;> rw [left, right] at bound
    · rw [substituteAll_eq_map, substituteAll_eq_map]
      refine .of_forall₂ (.refl head) ?_
      rw [List.forall₂_map_left_iff, List.forall₂_map_right_iff, List.forall₂_same]
      exact ih
    · cases bound
    · cases bound
    · exact Option.rel_some_some.1 bound

private theorem isOpenAll_congr {ts : List TypeExpr}
    (each : ∀ t ∈ ts, t.isOpen b = t.isOpen b') : isOpenAll b ts = isOpenAll b' ts := by
  induction ts with
  | nil => rfl
  | cons t rest ih =>
    rw [isOpenAll, isOpenAll, each t List.mem_cons_self,
      ih fun u member => each u (List.mem_cons_of_mem _ member)]

/-- What can be looked up in a type depends only on which parameters are bound. -/
theorem isOpen_eq_of_bound
    (same : ∀ head, (TypeExpr.bound? b head).isSome = (TypeExpr.bound? b' head).isSome)
    (t : TypeExpr) : t.isOpen b = t.isOpen b' := by
  induction t with
  | node head args ih =>
    have rest := isOpenAll_congr ih
    cases head with
    | primitive name | reference name => simpa only [isOpen] using rest
    | parameter name => rw [isOpen, isOpen, same, rest]

theorem isOpen_congr (alike : Bindings.Alike b b') (t : TypeExpr) :
    t.isOpen b = t.isOpen b' :=
  isOpen_eq_of_bound alike.bound?_isSome t

end TypeExpr

/-- A graph finds the same declaration for names that are alike. -/
theorem Graph.resolve_alike {g : Graph} {n n' : ScopedName} {d : ScopedDecl} (alike : n.Alike n')
    (found : g.resolve n = .ok d) : g.resolve n' = .ok d := by
  simp only [Graph.resolve, alike.1.key?_eq, alike.2.key?_eq, alike.1.find?_eq] at found ⊢
  split at found <;> try cases found
  rename_i isKey
  simp only [isKey, Bool.false_eq_true, ↓reduceIte]
  split at found <;> try cases found
  rename_i m loaded
  simp only [alike.2.find?_eq] at found ⊢
  split at found <;> try cases found
  rename_i isKey'
  simp only [isKey', Bool.false_eq_true, ↓reduceIte]
  split at found <;> try cases found
  rfl

end AdlTables
