import AdlTables.Proofs.Alike
import AdlTables.Proofs.Outcome

/-! # Outcomes of one kind

Two computations match if both give results that are related, or both fail with faults of one kind:
problems of one category, or the same breakdown. Texts of types match as soon as the names in them
are alike in two respects, whether they are texts and whether they can be written.
-/

namespace AdlTables

/-- The kind of a fault. For a problem this is the category of its report, and whether the report
can be put into words. -/
inductive FaultKind where
  | problem (category : Category) (isSayable : Bool)
  | mishap (m : Mishap)
  | exit (status : FailureStatus)
  | endless
deriving DecidableEq

def Fault.kind : Fault → FaultKind
  | problem p => .problem p.category (p.shown.all Value.isSayable)
  | mishap m => .mishap m
  | exit status => .exit status
  | endless => .endless

/-- Related results, or faults of one kind. -/
inductive Match {α β : Type} (r : α → β → Prop) : Except Fault α → Except Fault β → Prop
  | ok {a : α} {b : β} : r a b → Match r (.ok a) (.ok b)
  | error {f f' : Fault} : f.kind = f'.kind → Match r (.error f) (.error f')

namespace Match

variable {α α' β β' : Type} {r : α → α' → Prop} {s : β → β' → Prop}

theorem refl {r : α → α → Prop} (same : ∀ a, r a a) (x : Except Fault α) : Match r x x := by
  cases x with
  | ok a => exact .ok (same a)
  | error _ => exact .error rfl

theorem bind {x : Except Fault α} {x' : Except Fault α'} {f : α → Except Fault β}
    {f' : α' → Except Fault β'} (first : Match r x x')
    (rest : ∀ a a', r a a' → Match s (f a) (f' a')) : Match s (x >>= f) (x' >>= f') := by
  cases first with
  | ok related => exact rest _ _ related
  | error kinds => exact .error kinds

theorem bind_of_eq {x : Except Fault α} {x' : Except Fault α'} {f : α → Except Fault β}
    {f' : α' → Except Fault β'} (first : Match r x x')
    (rest : ∀ a a', x = .ok a → x' = .ok a' → r a a' → Match s (f a) (f' a')) :
    Match s (x >>= f) (x' >>= f') := by
  cases first with
  | ok related => exact rest _ _ rfl rfl related
  | error kinds => exact .error kinds

/-- The same step may be followed by others that match. -/
theorem bind_same (x : Except Fault α) {f : α → Except Fault β} {f' : α → Except Fault β'}
    (rest : ∀ a, Match s (f a) (f' a)) : Match s (x >>= f) (x >>= f') :=
  (refl (r := Eq) (fun _ => rfl) x).bind fun a _ same => same ▸ rest a

theorem imp {r' : α → α' → Prop} {x : Except Fault α} {x' : Except Fault α'}
    (matched : Match r x x') (weaker : ∀ a a', r a a' → r' a a') : Match r' x x' := by
  cases matched with
  | ok related => exact .ok (weaker _ _ related)
  | error kinds => exact .error kinds

theorem mapM {xs : List α} {xs' : List α'} {f : α → Except Fault β} {f' : α' → Except Fault β'}
    (related : List.Forall₂ r xs xs') (each : ∀ x x', r x x' → Match s (f x) (f' x')) :
    Match (List.Forall₂ s) (xs.mapM f) (xs'.mapM f') := by
  induction related with
  | nil => exact .ok .nil
  | cons first _ ih =>
    rw [List.mapM_cons, List.mapM_cons]
    exact (each _ _ first).bind fun _ _ one => ih.bind fun _ _ others => .ok (.cons one others)

theorem exists_right {x : Except Fault α} {x' : Except Fault α'} (matched : Match r x x') {a : α}
    (made : x = .ok a) : ∃ a', x' = .ok a' ∧ r a a' := by
  cases matched with
  | ok related =>
    cases made
    exact ⟨_, rfl, related⟩
  | error _ => cases made

theorem exists_left {x : Except Fault α} {x' : Except Fault α'} (matched : Match r x x') {a' : α'}
    (made : x' = .ok a') : ∃ a, x = .ok a ∧ r a a' := by
  cases matched with
  | ok related =>
    cases made
    exact ⟨_, rfl, related⟩
  | error _ => cases made

theorem mapError_kind {x x' : Except Fault α} (matched : Match Eq x x') :
    x.mapError Fault.kind = x'.mapError Fault.kind := by
  cases matched with
  | ok same => rw [same]
  | error kinds => exact congrArg Except.error kinds

end Match

def Key.isText : Key → Bool
  | text _ => true
  | _ => false

/-- Whether every number in a key can be written. -/
def Key.isSayable : Key → Bool
  | int i => i.natAbs < Value.numberLimit
  | pair key value => key.isSayable && value.isSayable
  | _ => true

namespace Binary64

open Decimal (twoTo)

variable {x : Binary64}

/-- A finite number is `m * 2 ^ q` with at most 53 bits in `m`. -/
theorem bounds_of_view {negative : Bool} {m : Nat} {q : Int}
    (viewed : x.view = .finite negative m q) : m < twoTo 53 ∧ q ≤ 971 := by
  have fraction : x.bits.toNat % twoTo 52 < twoTo 52 := Nat.mod_lt _ (Nat.pow_pos (by decide))
  have exponent : x.bits.toNat / twoTo 52 % twoTo 11 < 2048 := Nat.mod_lt _ (by decide)
  have double : twoTo 53 = twoTo 52 + twoTo 52 := by decide
  simp only [view] at viewed
  split at viewed
  · split at viewed <;> cases viewed
  split at viewed
  · cases viewed
    omega
  · cases viewed
    omega

private theorem mul_twoTo_lt {a b d m k : Nat} (short : m < twoTo a) (low : k ≤ b)
    (few : a + b ≤ d) : m * twoTo k < Decimal.tenTo d :=
  calc m * twoTo k
    _ < twoTo a * twoTo b :=
        Nat.mul_lt_mul_of_lt_of_le short (Nat.pow_le_pow_right (by decide) low)
          (Nat.pow_pos (by decide))
    _ = twoTo (a + b) := (Nat.pow_add 2 a b).symm
    _ ≤ Decimal.tenTo (a + b) := Nat.pow_le_pow_left (by decide) _
    _ ≤ Decimal.tenTo d := Nat.pow_le_pow_right (by decide) few

private theorem lt_numberLimit {m k : Nat} (short : m < twoTo 53) (low : k ≤ 971) :
    m * twoTo k < Value.numberLimit :=
  mul_twoTo_lt short low (by decide)

/-- A number in the double format is never too long to be written. -/
theorem natAbs_lt_of_toInt? {i : Int} (whole : x.toInt? = some i) :
    i.natAbs < Value.numberLimit := by
  rw [toInt?] at whole
  split at whole
  · rename_i negative m q viewed
    obtain ⟨short, low⟩ := bounds_of_view viewed
    obtain ⟨_, lifted, rfl⟩ := Option.map_eq_some_iff.1 whole
    obtain ⟨n, isWhole, same⟩ := Option.bind_eq_some_iff.1 lifted
    obtain rfl := Option.some.inj same
    have below : n < Value.numberLimit := by
      split at isWhole
      · obtain rfl := Option.some.inj isWhole
        have low' : q.toNat ≤ 971 := by omega
        exact lt_numberLimit short low'
      · split at isWhole
        · obtain rfl := Option.some.inj isWhole
          have itself := lt_numberLimit short (Nat.zero_le 971)
          rw [twoTo, Nat.mul_one] at itself
          exact Nat.lt_of_le_of_lt (Nat.div_le_self m _) itself
        · cases isWhole
    cases negative with
    | false => rwa [if_neg Bool.false_ne_true, Int.natAbs_natCast]
    | true => rwa [if_pos rfl, Int.natAbs_neg, Int.natAbs_natCast]
  · cases whole

end Binary64

namespace Value

variable {a b : Value} {k : Key}

/-- What a value is as a key decides whether it can be written. -/
theorem isSayable_of_key? (isKey : a.key? = some k) : a.isSayable = k.isSayable := by
  induction k generalizing a with
  | pair key value first second =>
    cases a with
    | pair a b =>
      obtain ⟨_, left, isKey⟩ := Option.bind_eq_some_iff.1 isKey
      obtain ⟨_, right, isKey⟩ := Option.bind_eq_some_iff.1 isKey
      cases isKey
      rw [Value.isSayable, Key.isSayable, first left, second right]
    | float x =>
      rw [key?] at isKey
      split at isKey <;> cases isKey
    | _ => cases isKey
  | int i =>
    cases a with
    | bool b =>
      have small : 1 * Decimal.twoTo 0 < numberLimit :=
        Binary64.lt_numberLimit (by decide) (Nat.zero_le 971)
      cases isKey
      refine (decide_eq_true ?_).symm
      cases b with
      | false => exact Nat.zero_lt_of_lt small
      | true => exact small
    | int j =>
      cases isKey
      rfl
    | float x =>
      rw [key?] at isKey
      split at isKey
      · rename_i j whole
        cases isKey
        exact (decide_eq_true (Binary64.natAbs_lt_of_toInt? whole)).symm
      · cases isKey
    | pair a b => simp [key?, Option.bind_eq_some_iff] at isKey
    | _ => cases isKey
  | _ => cases a with
    | float x => rfl
    | pair a b => simp [key?, Option.bind_eq_some_iff] at isKey
    | _ => cases isKey <;> rfl

private theorem text?_isSome_of_key? (isKey : a.key? = some k) : a.text?.isSome = k.isText := by
  cases a with
  | float x =>
    rw [key?] at isKey
    split at isKey <;> cases isKey <;> rfl
  | pair a b =>
    obtain ⟨_, _, isKey⟩ := Option.bind_eq_some_iff.1 isKey
    obtain ⟨_, _, isKey⟩ := Option.bind_eq_some_iff.1 isKey
    cases isKey
    rfl
  | _ => cases isKey <;> rfl

/-- Values of which both or neither are texts, and both or neither can be written. -/
def Like (a b : Value) : Prop :=
  a.text?.isSome = b.text?.isSome ∧ a.isSayable = b.isSayable

namespace Like

theorem refl (a : Value) : a.Like a := ⟨rfl, rfl⟩

theorem texts (s t : String) : (text s).Like (text t) := ⟨rfl, rfl⟩

theorem trans {c : Value} (first : a.Like b) (second : b.Like c) : a.Like c :=
  ⟨first.1.trans second.1, first.2.trans second.2⟩

theorem symm (like : a.Like b) : b.Like a :=
  ⟨like.1.symm, like.2.symm⟩

theorem of_alike (alike : a.Alike b) : a.Like b := by
  obtain rfl | same := alike
  · exact refl a
  · obtain ⟨k, left, right⟩ := same_iff.1 same
    exact ⟨(text?_isSome_of_key? left).trans (text?_isSome_of_key? right).symm,
      (isSayable_of_key? left).trans (isSayable_of_key? right).symm⟩

theorem say (like : a.Like b) : Match (fun _ _ => True) a.say b.say := by
  rw [Value.say, Value.say, like.2]
  split
  · exact .ok trivial
  · exact .error rfl

end Like

end Value

def TypeRef.shortName : TypeRef → Value
  | primitive name => name
  | parameter name => name
  | reference name => name.name

private theorem TypeRef.label_short (head : TypeRef) : head.label .short = .ok head.shortName := by
  cases head <;> rfl

theorem TypeRef.Alike.shortName {head head' : TypeRef} (alike : head.Alike head') :
    head.shortName.Alike head'.shortName := by
  cases head <;> cases head' <;> first | exact alike.elim | exact alike | exact alike.2

private theorem TypeRef.Alike.isKey_eq {head head' : TypeRef} (alike : head.Alike head') :
    head.isKey = head'.isKey := by
  cases head <;> cases head' <;> first
    | exact alike.elim
    | exact congrArg Option.isSome (Value.Alike.key?_eq alike)
    | exact congrArg₂ (·.isSome && ·.isSome) alike.1.key?_eq alike.2.key?_eq

namespace TypeExpr

variable {t t' : TypeExpr} {args args' : List TypeExpr} {head head' : TypeRef}

private theorem allTexts_match {values values' : List Value}
    (like : List.Forall₂ Value.Like values values') :
    Match (fun _ _ => True) (allTexts values) (allTexts values') := by
  rw [allTexts, allTexts]
  refine (Match.mapM (s := fun _ _ => True) like fun v v' like => ?_).imp fun _ _ _ => trivial
  cases v <;> cases v' <;> first | exact .ok trivial | exact .error rfl | cases like.1

/-- Types that show alike: their texts are alike, or cannot be made for the same reason. -/
def ShowsLike (t t' : TypeExpr) : Prop :=
  Match Value.Like (t.label .short) (t'.label .short)

private theorem labels_match (each : List.Forall₂ ShowsLike args args') :
    Match (List.Forall₂ Value.Like) (labels .short args) (labels .short args') := by
  induction each with
  | nil => exact .ok .nil
  | cons first _ ih =>
    exact first.bind fun _ _ like => ih.bind fun _ _ likes => .ok (.cons like likes)

/-- Types show alike if the names at their heads and their arguments do. -/
theorem ShowsLike.node (names : head.shortName.Like head'.shortName)
    (each : List.Forall₂ ShowsLike args args') :
    ShowsLike (.node head args) (.node head' args') := by
  rw [ShowsLike, label, label, TypeRef.label_short, TypeRef.label_short]
  have empty : args.isEmpty = args'.isEmpty := by cases each <;> rfl
  simp only [Outcome.ok_bind, empty]
  split
  · exact .ok names
  · refine (labels_match each).bind fun _ _ likes => (allTexts_match likes).bind fun _ _ _ => ?_
    exact names.say.bind fun _ _ _ => .ok (.texts _ _)

theorem ShowsLike.of_alike (alike : t.Alike t') : ShowsLike t t' := by
  induction t generalizing t' with
  | node head args ih =>
    obtain ⟨head', args'⟩ := t'
    obtain ⟨heads, each⟩ := alike_node_iff.1 alike
    exact .node (.of_alike heads.shortName) (forall₂_imp_of_mem each fun t member _ => ih t member)

theorem isKey_alike (alike : t.Alike t') : t.isKey = t'.isKey := by
  induction t generalizing t' with
  | node head args ih =>
    obtain ⟨head', args'⟩ := t'
    obtain ⟨heads, each⟩ := alike_node_iff.1 alike
    rw [isKey, isKey, heads.isKey_eq]
    congr 1
    clear heads alike
    induction each with
    | nil => rfl
    | cons first _ ihs =>
      rw [isKeyAll, isKeyAll, ih _ List.mem_cons_self first,
        ihs fun t member => ih t (List.mem_cons_of_mem _ member)]

/-- Complaints about types that show alike are of one kind if they are where the texts are alike. -/
theorem ShowsLike.complain {α β : Type} {r : α → β → Prop} (shows : ShowsLike t t')
    {problem : Value → Problem}
    (kinds : ∀ v v', v.Like v' →
      (Fault.problem (problem v)).kind = (Fault.problem (problem v')).kind) :
    Match r (t.complain problem) (t'.complain problem) :=
  shows.bind fun v v' like => .error (kinds v v' like)

end TypeExpr

end AdlTables
