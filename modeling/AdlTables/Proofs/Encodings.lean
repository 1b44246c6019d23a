import AdlTables.Declaration.Encoding
import AdlTables.Proofs.Agreement

/-! # Encodings of one module

A document may write one module in several ways: a scoped name as an object or as a text with a
point, a branch as an object with one key or as one that names its kind, an annotation under any of
three spellings of a pair, and annotations as a list or as a mapping. `Recoded` relates values that
differ in such choices only, at any depth; what they encode is one module.
-/

namespace AdlTables

open Value (Parts Objects Lists)

namespace ScopedName

variable {moduleName name : String} {v w : Value}

/-- The spellings of a name in a module: a text with a point before the name, or an object. -/
def Spelled (moduleName name : String) (v : Value) : Prop :=
  v.bare = .text (moduleName ++ "." ++ name) ∨ ∃ entries, v.bare = .mapping entries ∧
    Value.find? entries "moduleName" = some (.text moduleName) ∧
    Value.find? entries "name" = some (.text name)

/-- A module that has a name, and a name that has no point. -/
def IsPlain (moduleName name : String) : Prop :=
  moduleName ≠ "" ∧ '.' ∉ name.toList

/-- Values that differ at most in the spelling of a plain name. -/
inductive Recoded : Value → Value → Prop
  | refl (v : Value) : Recoded v v
  | spelled {moduleName name : String} {v w : Value} : IsPlain moduleName name →
    Spelled moduleName name v → Spelled moduleName name w → Recoded v w

/-- The last point of a text is the one before a name that has none. -/
theorem splitLast_joined (plain : '.' ∉ name.toList) :
    splitLast (moduleName ++ "." ++ name).toList = (moduleName.toList, name.toList) := by
  have none : ∀ c ∈ name.toList.reverse, (c != '.') = true := by
    intro c member
    have isName : c ∈ name.toList := List.mem_reverse.1 member
    rw [bne_iff_ne]
    rintro rfl
    exact plain isName
  have reversed : (moduleName ++ "." ++ name).toList.reverse =
      name.toList.reverse ++ '.' :: moduleName.toList.reverse := by
    simp
  rw [splitLast, reversed, List.takeWhile_append_of_pos none, List.dropWhile_append_of_pos none]
  simp

theorem ofValue_of_spelled (plain : IsPlain moduleName name) (spelled : Spelled moduleName name v) :
    ofValue v = .ok (ofTexts moduleName name) := by
  rcases spelled with isText | ⟨entries, isMapping, inModule, named⟩
  · have isSome : moduleName.toList.isEmpty = false := by
      simpa using plain.1
    rw [ofValue, isText]
    simp only [splitLast_joined plain.2, isSome, Bool.false_eq_true, if_false, String.ofList_toList]
  · simp [ofValue, isMapping, inModule, named, ofTexts]

theorem Recoded.ofValue (recoded : Recoded v w) : Agree Eq (ofValue v) (ofValue w) := by
  rcases recoded with _ | ⟨plain, spelled, spelled'⟩
  · exact .refl (fun _ => rfl) _
  · rw [ofValue_of_spelled plain spelled, ofValue_of_spelled plain spelled']
    exact .ok rfl

end ScopedName

namespace Branch

variable {payloads : Value → Value → Value → Prop} {kind payload v w : Value}

/-- The encodings of a branch: an object with the branch as its only key, or one that names its
kind. -/
def Encoded (kind payload v : Value) : Prop :=
  ∃ entries, v.bare = .mapping entries ∧
    (entries = [(kind, payload)] ∧ kind ≠ .text "kind" ∨
      Value.find? entries "kind" = some kind ∧ Value.find? entries "value" = some payload)

/-- Values that differ at most in how a branch is encoded, and in its payload as the branch lets
it. -/
inductive Recoded (payloads : Value → Value → Value → Prop) : Value → Value → Prop
  | refl (v : Value) : Recoded payloads v v
  | encoded {kind payload payload' v w : Value} : Encoded kind payload v →
    Encoded kind payload' w → payloads kind payload payload' → Recoded payloads v w

theorem ofValue_of_encoded (encoded : Encoded kind payload v) :
    ofValue v = .ok ⟨kind, payload⟩ := by
  rcases encoded with ⟨entries, isMapping, ⟨rfl, other⟩ | ⟨isKind, isPayload⟩⟩
  · have unnamed : Value.find? [(kind, payload)] "kind" = none := by
      have apart : kind.isText "kind" = false :=
        Bool.eq_false_iff.2 fun same => other (Value.eq_text_of_isText same)
      simp [Value.find?, apart]
    simp [ofValue, isMapping, unnamed]
  · simp [ofValue, isMapping, isKind, isPayload]

theorem Recoded.ofValue (recoded : Recoded payloads v w)
    (refl : ∀ kind payload, payloads kind payload payload) :
    Agree (fun b b' => b.kind = b'.kind ∧ payloads b.kind b.payload b'.payload)
      (ofValue v) (ofValue w) := by
  rcases recoded with _ | ⟨encoded, encoded', related⟩
  · exact .refl (fun b => ⟨rfl, refl b.kind b.payload⟩) _
  · rw [ofValue_of_encoded encoded, ofValue_of_encoded encoded']
    exact .ok ⟨rfl, related⟩

private theorem isWhole_payload {b : Branch} (isWhole : v.IsWhole) (read : ofValue v = .ok b) :
    b.payload.IsWhole := by
  have null : Value.IsWhole .null := fun _ _ => rfl
  rw [ofValue] at read
  split at read
  · cases read
    exact null
  · rename_i entries isMapping
    split at read
    · cases read
      cases found : Value.find? entries "value" with
      | none => exact null
      | some payload => exact isWhole.under isMapping (Value.mem_of_find? found)
    · split at read
      · cases read
        exact isWhole.under isMapping List.mem_cons_self
      · cases read
  · cases read

theorem Recoded.ofValue_parts (recoded : Recoded payloads v w)
    (refl : ∀ kind payload, payloads kind payload payload) (left : v.IsWhole) (right : w.IsWhole) :
    Agree (fun b b' => b.kind = b'.kind ∧ Value.Parts (payloads b.kind) b.payload b'.payload)
      (Branch.ofValue v) (Branch.ofValue w) := by
  have read := recoded.ofValue refl
  cases branched : Branch.ofValue v <;> cases branched' : Branch.ofValue w <;>
    rw [branched, branched'] at read <;> cases read
  · exact .error _ _
  · rename_i both
    exact .ok ⟨both.1, both.2, isWhole_payload left branched, isWhole_payload right branched'⟩

/-- The payload of a reference is a name, and those of other type references stay as they are. -/
def typePayloads (kind : Value) : Value → Value → Prop :=
  if kind.isText "reference" then ScopedName.Recoded else Eq

private theorem typePayloads_refl (kind payload : Value) : typePayloads kind payload payload := by
  rw [typePayloads]
  split
  · exact .refl payload
  · rfl

private theorem typeRef_agree {b b' : Branch} (kinds : b.kind = b'.kind)
    (related : typePayloads b.kind b.payload b'.payload) : Agree Eq b.typeRef b'.typeRef := by
  rw [typeRef, typeRef, ← kinds]
  by_cases isReference : b.kind.isText "reference"
  · rw [typePayloads, if_pos isReference] at related
    have apart (s : String) (other : s ≠ "reference") : ¬ b.kind.isText s := by
      rw [Value.eq_text_of_isText isReference]
      simpa [Value.isText] using other.symm
    rw [if_neg (apart _ (by decide)), if_neg (apart _ (by decide)), if_pos isReference,
      if_neg (apart _ (by decide)), if_neg (apart _ (by decide)), if_pos isReference]
    exact related.ofValue.bind_eq fun name => .ok rfl
  · rw [typePayloads, if_neg isReference] at related
    rw [related]
    exact .refl (fun _ => rfl) _

end Branch

namespace TypeExpr

variable {v w : Value} {depth : Nat}

/-- What may differ under the keys of a type in which the types inside may differ. -/
def differs (inner : Value → Value → Prop) : Value → Value → Value → Prop
  | .text "typeRef" => Branch.Recoded Branch.typePayloads
  | .text "parameters" => fun p q => p = q ∨ Lists inner p q
  | _ => Eq

/-- Values that, as far as types inside types are followed, differ at most in how their branches and
the names in them are encoded. -/
def RecodedWithin : Nat → Value → Value → Prop
  | 0, _, _ => True
  | depth + 1, v, w => v = w ∨ Objects (differs (RecodedWithin depth)) v w

/-- Values that differ at most in how branches and names are encoded, however far types inside types
are followed. -/
def Recoded (v w : Value) : Prop :=
  ∀ depth, RecodedWithin depth v w

private theorem unlisted_agree (parameters : Value) :
    Agree Eq (unlisted v parameters) (unlisted w parameters) := by
  rw [unlisted, unlisted]
  split
  · exact .ok rfl
  · exact .error _ _
  · exact .error _ _

private theorem argsOf_agree {typeOf : Value → Except Fault TypeExpr} {r : Value → Value → Prop}
    {parameters parameters' : Option Value}
    (each : ∀ v w, r v w → Agree Eq (typeOf v) (typeOf w))
    (related : Option.Rel (fun p q => p = q ∨ Lists r p q) parameters parameters') :
    Agree Eq (argsOf typeOf v parameters) (argsOf typeOf w parameters') := by
  rcases related with (rfl | ⟨items, items', isList, isList', itemwise⟩) | _
  · rw [argsOf, argsOf]
    split
    · exact .refl (fun _ => rfl) _
    · exact unlisted_agree _
  · simp only [argsOf, isList, isList']
    exact .mapM_eq itemwise each
  · exact .ok rfl

theorem RecodedWithin.ofValueWithin (recoded : RecodedWithin depth v w) :
    Agree Eq (ofValueWithin depth v) (ofValueWithin depth w) := by
  induction depth generalizing v w with
  | zero => exact .error _ _
  | succ depth ih =>
    rcases recoded with rfl | ⟨entries, entries', isMapping, isMapping', related⟩
    · exact .refl (fun _ => rfl) _
    have typeRefs : Option.Rel (Branch.Recoded Branch.typePayloads)
        (Value.find? entries "typeRef") (Value.find? entries' "typeRef") :=
      Value.find?_related related "typeRef"
    have parameters : Option.Rel (fun p q => p = q ∨ Lists (RecodedWithin depth) p q)
        (Value.find? entries "parameters") (Value.find? entries' "parameters") :=
      Value.find?_related related "parameters"
    simp only [TypeExpr.ofValueWithin, isMapping, isMapping']
    generalize Value.find? entries "typeRef" = a, Value.find? entries' "typeRef" = b at typeRefs
    rcases typeRefs with encoded | _
    · refine (encoded.ofValue Branch.typePayloads_refl).bind fun branch branch' both => ?_
      refine (argsOf_agree (r := RecodedWithin depth) (fun _ _ => ih) parameters).bind_eq
        fun args => ?_
      exact (Branch.typeRef_agree both.1 both.2).bind_eq fun head => .ok rfl
    · exact .error _ _

/-- What a reader of types goes on to inside a value: the parameters of a type, and their items. -/
def inner : Value → List Value
  | .mapping entries => (Value.find? entries "parameters").toList
  | .list items => items
  | _ => []

theorem inner_subset_inside (v : Value) : inner v ⊆ v.inside := by
  intro c member
  cases v with
  | mapping entries => exact List.mem_map_of_mem (Value.mem_of_find? (Option.mem_toList.1 member))
  | list items => exact member
  | _ => cases member

theorem ofValueWithin_eq_ok {t : TypeExpr} : ofValueWithin (depth + 1) v = .ok t ↔
    ∃ entries, v.bare = .mapping entries ∧ ∃ encoded, Value.find? entries "typeRef" = some encoded ∧
      ∃ branch, Branch.ofValue encoded = .ok branch ∧
      ∃ args, argsOf (ofValueWithin depth) v (Value.find? entries "parameters") = .ok args ∧
      ∃ head, branch.typeRef = .ok head ∧ node head args = t := by
  rw [ofValueWithin]
  cases v.bare with
  | mapping entries =>
    cases found : Value.find? entries "typeRef" with
    | none => simp [found, Fault.raise]
    | some encoded => simp [found, Outcome.bind_eq_ok]
  | _ => simp [Fault.raise]

/-- Arguments that are read stay so by every reader that reads the same types in them. -/
theorem argsOf_keeps {typeOf typeOf' : Value → Except Fault TypeExpr} {parameters : Value}
    {args : List TypeExpr} (read : argsOf typeOf v (some parameters) = .ok args)
    (keeps : ∀ c ∈ inner parameters.bare, ∀ t, typeOf c = .ok t → typeOf' c = .ok t) :
    argsOf typeOf' v (some parameters) = .ok args := by
  simp only [argsOf] at read ⊢
  split
  · rename_i items isList
    rw [isList] at read keeps
    exact Outcome.mapM_eq_ok.2 (forall₂_imp_of_mem (Outcome.mapM_eq_ok.1 read) keeps)
  · rename_i other
    split at read
    · rename_i items isList
      exact absurd isList (other items)
    · exact read

/-- Parameters that are no list but are read as arguments have nothing inside. -/
theorem inner_of_unlisted {parameters : Value} {args : List TypeExpr}
    (read : unlisted v parameters = .ok args) (notList : ∀ items, parameters.bare ≠ .list items) :
    inner parameters.bare = [] := by
  rw [unlisted, Value.items, Value.items?] at read
  cases bare : parameters.bare with
  | list items => exact absurd bare (notList items)
  | mapping entries =>
    simp only [bare] at read
    cases entries with
    | nil => rfl
    | cons _ _ => cases read
  | _ => rfl

private theorem endsWithin_of_read {t : TypeExpr} (read : ofValueWithin depth v = .ok t) :
    v.EndsWithin inner (2 * depth) := by
  induction depth generalizing v t with
  | zero => cases read
  | succ depth ih =>
    obtain ⟨entries, isMapping, _, _, _, _, args, args_read, _⟩ := ofValueWithin_eq_ok.1 read
    refine .step fun parameters member => .step fun c member' => ?_
    rw [isMapping] at member
    rw [Option.mem_toList.1 member] at args_read
    by_cases isList : ∃ items, parameters.bare = .list items
    · obtain ⟨items, isList⟩ := isList
      simp only [argsOf, isList] at args_read
      rw [isList] at member'
      obtain ⟨_, _, item_read⟩ := Outcome.exists_of_mapM args_read member'
      exact ih item_read
    · have notList := fun items same => isList ⟨items, same⟩
      have unlisted_read : unlisted v parameters = .ok args := by
        rw [← args_read, argsOf]
        split
        · exact absurd ‹_› (notList _)
        · rfl
      rw [inner_of_unlisted unlisted_read notList] at member'
      cases member'

/-- Two steps lead from a type to a type inside it. -/
theorem endsWithin_argument {n : Nat} {entries : List (Value × Value)} {parameters c : Value}
    (ends : v.EndsWithin inner (n + 1)) (isMapping : v.bare = .mapping entries)
    (given : Value.find? entries "parameters" = some parameters)
    (member : c ∈ inner parameters.bare) : c.EndsWithin inner n := by
  have isParameters : parameters ∈ inner v.bare := by
    rw [isMapping]
    exact Option.mem_toList.2 given
  have toParameters := ends.of_mem isParameters
  cases toParameters with
  | step each => exact (each c member).mono (Nat.le_succ _)

private theorem ofValueWithin_of_ends {n : Nat} {t : TypeExpr} (ends : v.EndsWithin inner n)
    (read : ofValueWithin depth v = .ok t) : ofValueWithin n v = .ok t := by
  induction depth generalizing v n t with
  | zero => cases read
  | succ depth ih =>
    obtain ⟨entries, isMapping, encoded, found, branch, branched, args, args_read, headed⟩ :=
      ofValueWithin_eq_ok.1 read
    obtain ⟨n, rfl⟩ : ∃ m, n = m + 1 := by
      cases ends with
      | step _ => exact ⟨_, rfl⟩
    refine ofValueWithin_eq_ok.2
      ⟨entries, isMapping, encoded, found, branch, branched, args, ?_, headed⟩
    cases given : Value.find? entries "parameters" with
    | none => rwa [given] at args_read
    | some parameters =>
      rw [given] at args_read
      exact argsOf_keeps args_read fun c member t item_read =>
        ih (endsWithin_argument ends isMapping given member) item_read

/-- In a whole value a type that is read to any depth is read. -/
theorem ofValue_eq_ok {t : TypeExpr} (isWhole : v.IsWhole) :
    ofValue v = .ok t ↔ ∃ depth, ofValueWithin depth v = .ok t := by
  constructor
  · exact fun read => ⟨_, read⟩
  · rintro ⟨depth, read⟩
    have ends := (endsWithin_of_read read).within_size inner_subset_inside isWhole
    exact ofValueWithin_of_ends (ends.mono (Nat.le_succ _)) read

theorem Recoded.ofValue (recoded : Recoded v w) (left : v.IsWhole) (right : w.IsWhole) :
    Agree Eq (ofValue v) (ofValue w) := by
  refine Agree.iff_eq.2 fun t => ?_
  rw [ofValue_eq_ok left, ofValue_eq_ok right]
  exact exists_congr fun depth => Agree.iff_eq.1 (recoded depth).ofValueWithin t

end TypeExpr

end AdlTables
