import AdlTables.Proofs.JsonValues

/-! # The grammar of encoded types

A type is written as an object with a branch for what stands at its head, and with its arguments in
a list. `Written` says so by itself, without a reader. The reader takes what is written so to the
type that is written, and everything else to a report that shows parts of the value only. Whether
the report can be put into words is another matter: a whole number with too many digits cannot be
shown, and where a part to show holds one there is a breakdown in place of the report. No JSON text
has such a number, but other formats do.
-/

namespace AdlTables

/-- The ways to write a scoped name: the module and the name with a point between them, of which the
name has none itself, or an object of the two. -/
inductive ScopedName.Written : Value → ScopedName → Prop
  | text {moduleName name : String} : moduleName ≠ "" → '.' ∉ name.toList →
    Written (.text (moduleName ++ "." ++ name)) (ofTexts moduleName name)
  | object {entries : List (Value × Value)} {moduleName name : Value} :
    Value.find? entries "moduleName" = some moduleName → Value.find? entries "name" = some name →
    Written (.mapping entries) ⟨moduleName, name⟩

/-- The branches for the head of a type. -/
inductive TypeRef.Written : Branch → TypeRef → Prop
  | primitive (payload : Value) : Written ⟨.text "primitive", payload⟩ (.primitive payload)
  | parameter (payload : Value) : Written ⟨.text "typeParam", payload⟩ (.parameter payload)
  | reference {payload : Value} {name : ScopedName} : ScopedName.Written payload name →
    Written ⟨.text "reference", payload⟩ (.reference name)

namespace TypeExpr

/-- The ways to write arguments that are written in some ways each. -/
inductive ArgsWritten (each : Value → TypeExpr → Prop) : Option Value → List TypeExpr → Prop
  | absent : ArgsWritten each none []
  | emptyText : ArgsWritten each (some (.text "")) []
  | emptyObject : ArgsWritten each (some (.mapping [])) []
  | list {items : List Value} {args : List TypeExpr} : List.Forall₂ each items args →
    ArgsWritten each (some (.list items)) args

/-- The ways to write a type: an object with a branch for its head, and with its arguments. -/
inductive Written : Value → TypeExpr → Prop
  | node {entries : List (Value × Value)} {encoded : Value} {branch : Branch} {head : TypeRef}
    {args : List TypeExpr} : Value.find? entries "typeRef" = some encoded →
    Branch.ofValue encoded = .ok branch → TypeRef.Written branch head →
    ArgsWritten Written (Value.find? entries "parameters") args →
    Written (.mapping entries) (.node head args)

end TypeExpr

variable {v : Value}

/-- The last point of characters, if there is anything before it, is followed by none. -/
theorem ScopedName.splitLast_spec (s : List Char) : '.' ∉ (splitLast s).2 ∧
    ((splitLast s).1 ≠ [] → (splitLast s).1 ++ '.' :: (splitLast s).2 = s) := by
  have joined := List.takeWhile_append_dropWhile (p := (· != '.')) (l := s.reverse)
  rw [splitLast]
  dsimp only
  constructor
  · intro member
    have noPoint := List.all_eq_true.1 List.all_takeWhile _ (List.mem_reverse.1 member)
    exact absurd rfl (bne_iff_ne.1 noPoint)
  · intro something
    cases before : s.reverse.dropWhile (· != '.') with
    | nil => exact absurd (by rw [before]; rfl) something
    | cons c rest =>
      have isPoint : c = '.' := by
        have stops := List.head?_dropWhile_not (· != '.') s.reverse
        simpa [before] using stops
      subst isPoint
      rw [before] at joined
      have back := congrArg List.reverse joined
      rw [List.reverse_append, List.reverse_cons, List.reverse_reverse] at back
      simpa using back

theorem ScopedName.ofValue_eq_ok {name : ScopedName} (json : v.IsJson) :
    ofValue v = .ok name ↔ Written v name := by
  constructor
  · intro read
    rw [ofValue, json.bare_eq] at read
    split at read
    · rename_i s
      dsimp only at read
      split at read
      · cases read
      · rename_i named
        obtain rfl := Except.ok.inj read
        obtain ⟨noPoint, joined⟩ := splitLast_spec s.toList
        have nonempty : (splitLast s.toList).1 ≠ [] := by simpa using named
        have same : String.ofList (splitLast s.toList).1 ++ "." ++
            String.ofList (splitLast s.toList).2 = s := by
          apply String.toList_inj.1
          simpa using joined nonempty
        have written := @Written.text (String.ofList (splitLast s.toList).1)
          (String.ofList (splitLast s.toList).2) (by simpa using nonempty) (by simpa using noPoint)
        rwa [same] at written
    · split at read
      · cases read
        exact .object ‹_› ‹_›
      · cases read
    · cases read
  · rintro (⟨something, plain⟩ | ⟨inModule, named⟩)
    · exact ofValue_of_spelled ⟨something, plain⟩ (.inl rfl)
    · simp [ofValue, inModule, named]

/-- What is in a branch of a value of JSON is of JSON, too. -/
theorem Branch.isJson_payload {b : Branch} (json : v.IsJson) (read : ofValue v = .ok b) :
    b.payload.IsJson := by
  rcases part_payload .whole read with isNull | part
  · rw [isNull]
    exact .null
  · exact (json.of_part part).1

private theorem Branch.typeRef_eq_ok {b : Branch} {head : TypeRef} (json : b.payload.IsJson) :
    b.typeRef = .ok head ↔ TypeRef.Written b head := by
  obtain ⟨kind, payload⟩ := b
  rw [typeRef]
  constructor
  · intro read
    split at read
    · rename_i isPrimitive
      obtain rfl := Value.eq_text_of_isText isPrimitive
      cases read
      exact .primitive payload
    split at read
    · rename_i isParameter
      obtain rfl := Value.eq_text_of_isText isParameter
      cases read
      exact .parameter payload
    split at read
    · rename_i isReference
      obtain rfl := Value.eq_text_of_isText isReference
      obtain ⟨name, named, same⟩ := Outcome.bind_eq_ok.1 read
      cases same
      exact .reference ((ScopedName.ofValue_eq_ok json).1 named)
    · cases read
  · rintro (payload | payload | named)
    · rfl
    · rfl
    · simp [Value.isText, (ScopedName.ofValue_eq_ok json).2 named]

namespace TypeExpr

/-- Parameters that are no list are read if they are empty. -/
theorem unlisted_eq_ok {whole parameters : Value} {args : List TypeExpr}
    (json : parameters.IsJson) (notList : ∀ items, parameters ≠ .list items) :
    unlisted whole parameters = .ok args ↔
      args = [] ∧ (parameters = .text "" ∨ parameters = .mapping []) := by
  rw [unlisted, Value.items, Value.items?, json.bare_eq]
  cases json with
  | list _ => exact absurd rfl (notList _)
  | text s =>
    cases chars : s.toList with
    | nil =>
      obtain rfl : s = "" := String.toList_inj.1 chars
      simp [eq_comm]
    | cons c rest =>
      have nonempty : s ≠ "" := by
        rintro rfl
        cases chars
      simp [chars, Fault.raise, nonempty]
  | @mapping entries _ _ =>
    cases entries with
    | nil => simp [eq_comm]
    | cons entry rest => simp [Fault.raise]
  | _ => simp [Fault.raise, Fault.breakDown]

private theorem argsOf_eq_ok {typeOf : Value → Except Fault TypeExpr}
    {each : Value → TypeExpr → Prop} {whole : Value} {parameters : Option Value}
    {args : List TypeExpr}
    (json : ∀ p ∈ parameters, p.IsJson)
    (agree : ∀ p ∈ parameters, ∀ c ∈ inner p, ∀ t, typeOf c = .ok t ↔ each c t) :
    argsOf typeOf whole parameters = .ok args ↔ ArgsWritten each parameters args := by
  cases parameters with
  | none =>
    constructor
    · intro read
      cases read
      exact .absent
    · rintro ⟨⟩
      rfl
  | some p =>
    have pJson := json p rfl
    by_cases isList : ∃ items, p = .list items
    · obtain ⟨items, rfl⟩ := isList
      have steps : argsOf typeOf whole (some (.list items)) = items.mapM typeOf := rfl
      rw [steps, Outcome.mapM_eq_ok]
      constructor
      · exact fun read =>
          .list (forall₂_imp_of_mem read fun c member t => (agree _ rfl c member t).1)
      · rintro (_ | _ | _ | written)
        exact forall₂_imp_of_mem written fun c member t => (agree _ rfl c member t).2
    · have notList (items : List Value) : p ≠ .list items := fun same => isList ⟨items, same⟩
      have unlist : argsOf typeOf whole (some p) = unlisted whole p := by
        rw [argsOf, pJson.bare_eq]
        split
        · exact absurd rfl (notList _)
        · rfl
      rw [unlist, unlisted_eq_ok pJson notList]
      constructor
      · rintro ⟨rfl, rfl | rfl⟩
        · exact .emptyText
        · exact .emptyObject
      · rintro (_ | _ | _ | written)
        · exact ⟨rfl, .inl rfl⟩
        · exact ⟨rfl, .inr rfl⟩
        · exact absurd rfl (notList _)

/-- In a value of JSON a type is read, as far as types inside types go, if it is written there. -/
theorem ofValueWithin_eq_ok_iff {depth : Nat} {t : TypeExpr} (json : v.IsJson)
    (ends : v.EndsWithin inner depth) : ofValueWithin depth v = .ok t ↔ Written v t := by
  induction depth generalizing v t with
  | zero => cases ends
  | succ depth ih =>
    -- arguments are two steps further inside, so the induction is on steps and not on the value
    have args_iff {entries : List (Value × Value)} (isMapping : v = .mapping entries)
        {args : List TypeExpr} :
        argsOf (ofValueWithin depth) v (Value.find? entries "parameters") = .ok args ↔
          ArgsWritten Written (Value.find? entries "parameters") args := by
      subst isMapping
      have pJson : ∀ p ∈ Value.find? entries "parameters", p.IsJson := fun p given =>
        json.of_mem_inside (List.mem_map_of_mem (Value.mem_of_find? given))
      refine argsOf_eq_ok pJson fun p given c member t => ?_
      have cJson := (pJson p given).of_mem_inside (inner_subset_inside p member)
      rw [← (pJson p given).bare_eq] at member
      exact ih cJson (endsWithin_argument ends rfl given member)
    have head_iff {entries : List (Value × Value)} (isMapping : v = .mapping entries)
        {encoded : Value} (found : Value.find? entries "typeRef" = some encoded) {branch : Branch}
        (branched : Branch.ofValue encoded = .ok branch) {head : TypeRef} :
        branch.typeRef = .ok head ↔ TypeRef.Written branch head := by
      subst isMapping
      have encodedJson : encoded.IsJson :=
        json.of_mem_inside (List.mem_map_of_mem (Value.mem_of_find? found))
      exact Branch.typeRef_eq_ok (Branch.isJson_payload encodedJson branched)
    rw [ofValueWithin_eq_ok]
    constructor
    · rintro ⟨entries, isMapping, encoded, found, branch, branched, args, read, head, headed, rfl⟩
      obtain rfl := json.bare_eq.symm.trans isMapping
      exact .node found branched ((head_iff rfl found branched).1 headed) ((args_iff rfl).1 read)
    · rintro ⟨found, branched, headed, written⟩
      exact ⟨_, rfl, _, found, _, branched, _, (args_iff rfl).2 written, _,
        (head_iff rfl found branched).2 headed, rfl⟩

/-- In a value of JSON a type is read if it is written there. -/
theorem ofValue_eq_ok_iff {t : TypeExpr} (json : v.IsJson) : ofValue v = .ok t ↔ Written v t :=
  ofValueWithin_eq_ok_iff json (json.endsWithin (Nat.le_succ _))

end TypeExpr

/-- A computation reports its failures as problems of loading, and all that it shows are parts of a
value. -/
def Blames {α : Type} (whole : Value) (x : Except Fault α) : Prop :=
  ∀ fault, x = .error fault → ∃ p, fault = .problem p ∧ p.category = .load ∧
    ∀ w ∈ p.shown, w = .null ∨ whole.Part w

namespace Blames

variable {α β : Type} {whole : Value} {x : Except Fault α}

theorem ok (a : α) : Blames whole (.ok a : Except Fault α) := by
  intro fault failed
  cases failed

theorem raise {p : Problem} (kind : p.category = .load)
    (parts : ∀ w ∈ p.shown, w = .null ∨ whole.Part w) :
    Blames whole (Fault.raise p : Except Fault α) := by
  intro fault failed
  cases failed
  exact ⟨p, rfl, kind, parts⟩

theorem bind {f : α → Except Fault β} (first : Blames whole x)
    (rest : ∀ a, x = .ok a → Blames whole (f a)) : Blames whole (x >>= f) := by
  intro fault failed
  rcases Outcome.bind_eq_error.1 failed with here | ⟨a, given, later⟩
  · exact first fault here
  · exact rest a given fault later

theorem mapM {f : α → Except Fault β} {items : List α}
    (each : ∀ a ∈ items, Blames whole (f a)) : Blames whole (items.mapM f) := by
  intro fault failed
  obtain ⟨a, member, here⟩ := Outcome.exists_of_mapM_eq_error failed
  exact each a member fault here

end Blames

section

variable {whole w : Value}

private theorem ScopedName.ofValue_blames (part : v = .null ∨ whole.Part v) :
    Blames whole (ofValue v) := by
  have invalid : Blames whole (Fault.raise (.invalidScopedName v) : Except Fault ScopedName) :=
    .raise rfl (by simpa [Problem.shown] using part)
  rw [ofValue]
  split
  · dsimp only
    split
    · exact .raise rfl (by simp [Problem.shown])
    · exact .ok _
  · split
    · exact .ok _
    · exact invalid
  · exact invalid

private theorem Branch.ofValue_blames (part : whole.Part v) : Blames whole (ofValue v) := by
  have invalid : Blames whole (Fault.raise (.invalidUnion v) : Except Fault Branch) :=
    .raise rfl (by simpa [Problem.shown] using .inr part)
  rw [ofValue]
  split
  · exact .ok _
  · split
    · exact .ok _
    · split
      · exact .ok _
      · exact invalid
  · exact invalid

/-- The kind of a branch is in the value that encodes it. -/
theorem Branch.part_kind {b : Branch} (part : whole.Part v) (read : ofValue v = .ok b) :
    whole.Part b.kind := by
  rw [ofValue] at read
  split at read
  · cases read
    exact part
  · rename_i entries isMapping
    split at read
    · cases read
      exact part.of_find? isMapping ‹_›
    · split at read
      · rename_i kind payload _
        cases read
        have keys : v.items? = some [kind] := by
          rw [Value.items?, isMapping]
          rfl
        exact .item part keys List.mem_cons_self
      · cases read
  · cases read

private theorem Branch.typeRef_blames {b : Branch} (kind : whole.Part b.kind)
    (payload : b.payload = .null ∨ whole.Part b.payload) : Blames whole b.typeRef := by
  rw [typeRef]
  split
  · exact .ok _
  split
  · exact .ok _
  split
  · exact (ScopedName.ofValue_blames payload).bind fun _ _ => .ok _
  · exact .raise rfl (by simpa [Problem.shown] using .inr kind)

namespace TypeExpr

private theorem unlisted_blames (part : whole.Part v) (parameters : whole.Part w) :
    Blames whole (unlisted v w) := by
  rw [unlisted]
  split
  · exact .ok _
  · rename_i first rest items
    have isPart : whole.Part first := parameters.of_items items List.mem_cons_self
    exact .raise rfl (by simpa [Problem.shown] using .inr isPart)
  · exact .raise rfl (by simpa [Problem.shown] using .inr part)

private theorem ofValueWithin_blames {depth : Nat} (part : whole.Part v)
    (ends : v.EndsWithin inner depth) : Blames whole (ofValueWithin depth v) := by
  induction depth generalizing v with
  | zero => cases ends
  | succ depth ih =>
    have invalid : Blames whole (Fault.raise (.invalidTypeExpr v) : Except Fault TypeExpr) :=
      .raise rfl (by simpa [Problem.shown] using .inr part)
    rw [ofValueWithin]
    split
    · rename_i entries isMapping
      split
      · exact invalid
      · rename_i encoded found
        have encodedPart := part.of_find? isMapping found
        apply (Branch.ofValue_blames encodedPart).bind
        intro branch branched
        refine Blames.bind ?_ fun args _ => Blames.bind ?_ fun head _ => .ok _
        · cases given : Value.find? entries "parameters" with
          | none => exact .ok _
          | some parameters =>
            have parametersPart := part.of_find? isMapping given
            rw [argsOf]
            split
            · rename_i items isList
              apply Blames.mapM
              intro c member
              have runsThrough : parameters.items? = some items := by rw [Value.items?, isList]
              exact ih (.item parametersPart runsThrough member)
                (endsWithin_argument ends isMapping given (by rwa [isList]))
            · exact unlisted_blames part parametersPart
        · exact Branch.typeRef_blames (Branch.part_kind encodedPart branched)
            (Branch.part_payload encodedPart branched)
    · exact invalid

/-- What is no type is reported. -/
theorem exists_problem (json : v.IsJson) (unwritten : ∀ t, ¬ Written v t) :
    ∃ p : Problem, ofValue v = .error (.problem p) ∧ p.category = .load ∧
      ∀ w ∈ p.shown, w = .null ∨ v.Part w := by
  cases read : ofValue v with
  | ok t => exact (unwritten t ((ofValue_eq_ok_iff json).1 read)).elim
  | error fault =>
    obtain ⟨p, rfl, kind, parts⟩ :=
      ofValueWithin_blames .whole (json.endsWithin (Nat.le_succ _)) fault read
    exact ⟨p, rfl, kind, parts⟩

/-- The reader of types goes by the grammar. It takes a value of JSON to the type that is written
so, and reports any other as a problem of loading that shows nothing but parts of the value. The
report breaks down where a part to show holds a number that is too long to be written. If the value
holds no such number, and so if a JSON text denotes it, all that is not a type is reported. -/
theorem ofValue_or_blame (json : v.IsJson) :
    (∀ t, (ofValue v).mapError Fault.voiced = .ok t ↔ Written v t) ∧
    ((∀ t, ¬ Written v t) → ∃ p : Problem, p.category = .load ∧
      (∀ w ∈ p.shown, w = .null ∨ v.Part w) ∧ (ofValue v).mapError Fault.voiced =
        .error (if p.shown.all Value.isSayable then .problem p else .mishap .badValue)) ∧
    ((v.isSayable ∨ ∃ s, Json.read s = .ok v) → (∀ t, ¬ Written v t) → ∃ p : Problem,
      p.category = .load ∧ (ofValue v).mapError Fault.voiced = .error (.problem p)) := by
  refine ⟨fun t => ?_, fun unwritten => ?_, fun fine unwritten => ?_⟩
  · rw [← ofValue_eq_ok_iff json]
    cases ofValue v <;> simp [Except.mapError]
  · obtain ⟨p, failed, kind, parts⟩ := exists_problem json unwritten
    refine ⟨p, kind, parts, ?_⟩
    rw [failed]
    rfl
  · obtain ⟨p, failed, kind, parts⟩ := exists_problem json unwritten
    have sayable : v.isSayable := by
      rcases fine with sayable | ⟨s, denoted⟩
      · exact sayable
      · exact (Json.fine_of_read denoted).2
    have all : p.shown.all Value.isSayable := by
      rw [List.all_eq_true]
      intro w member
      rcases parts w member with rfl | part
      · rfl
      · exact (json.of_part part).2 sayable
    refine ⟨p, kind, ?_⟩
    rw [failed]
    simp [Except.mapError, Fault.voiced, all]

end TypeExpr

end

namespace LongNumber

/-- An object with a whole number in the place of a branch. -/
def headed (i : Int) : Value :=
  .mapping [(.text "typeRef", .int i)]

private theorem isJson_headed (i : Int) : (headed i).IsJson :=
  .mapping (by simp) (by simpa using .int i)

private theorem not_written_headed (i : Int) (t : TypeExpr) : ¬ TypeExpr.Written (headed i) t := by
  intro written
  cases written with
  | node found branched _ _ =>
    cases found
    cases branched

private theorem breaks_headed {i : Int} (tooLong : Value.isSayable (.int i) = false) :
    (TypeExpr.ofValue (headed i)).mapError Fault.voiced = .error (.mishap .badValue) := by
  have failed : TypeExpr.ofValue (headed i) = .error (.problem (.invalidUnion (.int i))) := rfl
  rw [failed]
  simp [Except.mapError, Fault.voiced, Problem.shown, tooLong]

end LongNumber

open LongNumber

/-- Not everything that is no type is reported: the first number that is too long to be written can
stand in the place of a branch. -/
theorem TypeExpr.not_always_blamed : ¬ ∀ v : Value, v.IsJson → (∀ t, ¬ Written v t) →
    ∃ p : Problem, p.category = .load ∧
      (ofValue v).mapError Fault.voiced = .error (.problem p) := by
  intro always
  have tooLong : Value.isSayable (.int Value.numberLimit) = false := by
    rw [Value.isSayable, Int.natAbs_natCast]
    exact decide_eq_false (Nat.lt_irrefl _)
  obtain ⟨p, -, reported⟩ := always (headed Value.numberLimit) (isJson_headed _)
    (not_written_headed _)
  rw [breaks_headed tooLong] at reported
  cases reported

namespace OptionalText

/-- Optional texts. One branch is an object with a single key, and one names its kind; the arguments
of texts are an empty object, and a name is a text with a point. -/
def document : Value := .mapping [
  (.text "typeRef", .mapping [(.text "reference", .text "sys.types.Maybe")]),
  (.text "parameters", .list [.mapping [
    (.text "typeRef", .mapping [
      (.text "kind", .text "primitive"), (.text "value", .text "String")]),
    (.text "parameters", .mapping [])]])]

private theorem isJson_document : document.IsJson := by
  refine .mapping (by simp) ?_
  simp only [List.forall_mem_cons, List.not_mem_nil, false_imp_iff, implies_true, and_true]
  refine ⟨.mapping (by simp) (by simpa using .text _), .list ?_⟩
  simp only [List.forall_mem_cons, List.not_mem_nil, false_imp_iff, implies_true, and_true]
  refine .mapping (by simp) ?_
  simp only [List.forall_mem_cons, List.not_mem_nil, false_imp_iff, implies_true, and_true]
  exact ⟨.mapping (by simp) (by simpa using ⟨.text _, .text _⟩), .mapping (by simp) (by simp)⟩

private theorem written_document :
    TypeExpr.Written document (.reference .maybe [.primitive "String" []]) := by
  have text : TypeExpr.Written (.mapping [
      (.text "typeRef", .mapping [(.text "kind", .text "primitive"),
        (.text "value", .text "String")]),
      (.text "parameters", .mapping [])]) (.primitive "String" []) :=
    .node rfl rfl (.primitive _) .emptyObject
  have name : ScopedName.Written (.text "sys.types.Maybe") .maybe :=
    @ScopedName.Written.text "sys.types" "Maybe" (by decide) (by decide)
  exact .node rfl rfl (.reference name) (.list (.cons text .nil))

end OptionalText

open OptionalText

/-- The type in the document, and a report where the document stands in a list of its own. -/
theorem TypeExpr.ofValue_or_blame_document : document.IsJson ∧
    (ofValue document).mapError Fault.voiced = .ok (.reference .maybe [.primitive "String" []]) ∧
    ∃ p : Problem, p.category = .load ∧
      (ofValue (.list [document])).mapError Fault.voiced = .error (.problem p) := by
  have listed : (Value.list [document]).IsJson := .list (by simpa using isJson_document)
  have unwritten (t : TypeExpr) : ¬ Written (.list [document]) t := by
    intro written
    cases written
  refine ⟨isJson_document, ?_, ?_⟩
  · exact ((ofValue_or_blame isJson_document).1 _).2 written_document
  · exact (ofValue_or_blame listed).2.2 (.inl (by decide +kernel)) unwritten

end AdlTables
