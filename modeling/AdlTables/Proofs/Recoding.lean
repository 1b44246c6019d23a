import AdlTables.Proofs.Encodings

/-! # Recoded modules

`Recoded` goes on from names, branches and types to annotations, fields, bodies, declarations,
imports and modules. What a module encodes does not depend on any choice between encodings.
-/

namespace AdlTables

open Value (Parts Objects Lists)

namespace Value

variable {v : Value}

private theorem isEmpty_of_list {items : List Value} (isList : v.bare = list items) :
    v.isEmpty = items.isEmpty := by
  cases v with
  | list _ =>
    cases isList
    rfl
  | shared place inner =>
    cases inner with
    | list inside =>
      simp only [bare, tie, tieItems_eq_map, list.injEq] at isList
      simp [isEmpty, ← isList]
    | shared _ _ | again _ =>
      simp only [bare, tie] at isList
      split at isList <;> cases isList
    | _ => cases isList
  | _ => cases isList

private theorem isEmpty_of_mapping {entries : List (Value × Value)}
    (isMapping : v.bare = mapping entries) : v.isEmpty = entries.isEmpty := by
  cases v with
  | mapping _ =>
    cases isMapping
    rfl
  | shared place inner =>
    cases inner with
    | mapping inside =>
      simp only [bare, tie, tieEntries_eq_map, mapping.injEq] at isMapping
      simp [isEmpty, ← isMapping]
    | shared _ _ | again _ =>
      simp only [bare, tie] at isMapping
      split at isMapping <;> cases isMapping
    | _ => cases isMapping
  | _ => cases isMapping

end Value

namespace Annotations

variable {v w name payload entry : Value}

/-- An entry that holds a name and a payload under one of the spellings of a pair. -/
def Spelled (name payload entry : Value) : Prop :=
  ∃ entries, entry.bare = .mapping entries ∧ ∃ spelling ∈ spellings,
    Value.find? entries spelling.1 = some name ∧ Value.find? entries spelling.2 = some payload ∧
      ∀ other ∈ spellings, other ≠ spelling → Value.find? entries other.1 = none

/-- Entries that differ at most in the spelling of the pair, and of the name in it. -/
inductive EntryRecoded : Value → Value → Prop
  | refl (v : Value) : EntryRecoded v v
  | spelled {name name' payload v w : Value} : Spelled name payload v → Spelled name' payload w →
    ScopedName.Recoded name name' → EntryRecoded v w

/-- A list of annotations with plain names, and a mapping with the texts of these names as keys. -/
def Tabulated (v w : Value) : Prop :=
  ∃ items entries, v.bare = .list items ∧ w.bare = .mapping entries ∧
    List.Forall₂ (fun item entry => ∃ moduleName name encoded,
      ScopedName.IsPlain moduleName name ∧ ScopedName.Spelled moduleName name encoded ∧
      Spelled encoded entry.2 item ∧ entry.1 = .text (moduleName ++ "." ++ name)) items entries

/-- Values that differ at most in how annotations are encoded: entry by entry, or as a list and a
mapping. -/
inductive Recoded : Value → Value → Prop
  | refl (v : Value) : Recoded v v
  | lists {v w : Value} : Lists EntryRecoded v w → Recoded v w
  | tabulated {v w : Value} : Tabulated v w → Recoded v w
  | listed {v w : Value} : Tabulated w v → Recoded v w

private theorem ofEntry_of_spelled (spelled : Spelled name payload entry) :
    ofEntry entry spellings = do return (← ScopedName.ofValue name, payload) := by
  obtain ⟨entries, isMapping, spelling, known, named, given, others⟩ := spelled
  simp only [spellings, List.mem_cons, List.not_mem_nil, or_false] at known
  have absent (other : String × String) (among : other ∈ spellings) (apart : other ≠ spelling) :
      Value.find? entries other.1 = none := others other among apart
  rcases known with rfl | rfl | rfl
  · simp [ofEntry, spellings, Value.holds, Value.option, Value.member, isMapping, named, given]
  · have first := absent ("v1", "v2") (by simp [spellings]) (by simp)
    simp [ofEntry, spellings, Value.holds, Value.option, Value.member, isMapping, named, given,
      first]
  · have first := absent ("v1", "v2") (by simp [spellings]) (by simp)
    have second := absent ("k", "v") (by simp [spellings]) (by simp)
    simp [ofEntry, spellings, Value.holds, Value.option, Value.member, isMapping, named, given,
      first, second]

theorem EntryRecoded.ofEntry (recoded : EntryRecoded v w) :
    Agree Eq (ofEntry v spellings) (ofEntry w spellings) := by
  rcases recoded with _ | ⟨spelled, spelled', names⟩
  · exact .refl (fun _ => rfl) _
  · rw [ofEntry_of_spelled spelled, ofEntry_of_spelled spelled']
    exact names.ofValue.bind_eq fun name => .ok rfl

private theorem ofList_agree {items items' : List Value} (done : Annotations)
    (related : List.Forall₂ EntryRecoded items items') :
    Agree Eq (ofList done items) (ofList done items') := by
  induction related generalizing done with
  | nil => exact .ok rfl
  | cons first _ ih =>
    rw [ofList, ofList]
    refine first.ofEntry.bind_eq fun entry => ?_
    exact (Agree.refl (fun _ => rfl) _).bind_eq fun done => ih done

private theorem ofMapping_agree {items : List Value} {entries : List (Value × Value)}
    (done : Annotations) (related : List.Forall₂ (fun item entry => ∃ moduleName name encoded,
      ScopedName.IsPlain moduleName name ∧ ScopedName.Spelled moduleName name encoded ∧
      Spelled encoded entry.2 item ∧ entry.1 = .text (moduleName ++ "." ++ name)) items entries) :
    ofList done items = ofMapping done entries := by
  induction related generalizing done with
  | nil => rfl
  | @cons item entry _ _ first _ ih =>
    obtain ⟨moduleName, name, encoded, plain, spelled, pair, isKey⟩ := first
    obtain ⟨key, payload⟩ := entry
    obtain rfl : key = .text (moduleName ++ "." ++ name) := isKey
    have asText : ScopedName.Spelled moduleName name (.text (moduleName ++ "." ++ name)) := .inl rfl
    rw [ofList, ofMapping, ofEntry_of_spelled pair, ScopedName.ofValue_of_spelled plain spelled,
      ScopedName.ofValue_of_spelled plain asText]
    simp only [Outcome.ok_bind, Outcome.pure_eq_ok, ih]

private theorem ofValue_of_list {items : List Value} (isList : v.bare = .list items) :
    ofValue v = ofList [] items := by
  rw [ofValue, Value.isEmpty_of_list isList, isList]
  cases items with
  | nil => rfl
  | cons _ _ => simp [Value.items, Value.items?, isList]

private theorem ofValue_of_mapping {entries : List (Value × Value)}
    (isMapping : v.bare = .mapping entries) :
    ofValue v = ofMapping [] entries := by
  rw [ofValue, Value.isEmpty_of_mapping isMapping, isMapping]
  cases entries <;> rfl

private theorem Tabulated.ofValue_eq (tabulated : Tabulated v w) : ofValue v = ofValue w := by
  obtain ⟨items, entries, isList, isMapping, related⟩ := tabulated
  rw [ofValue_of_list isList, ofValue_of_mapping isMapping]
  exact ofMapping_agree [] related

theorem Recoded.ofValue (recoded : Recoded v w) : Agree Eq (ofValue v) (ofValue w) := by
  rcases recoded with _ | ⟨items, items', isList, isList', related⟩ | tabulated | tabulated
  · exact .refl (fun _ => rfl) _
  · rw [ofValue_of_list isList, ofValue_of_list isList']
    exact ofList_agree [] related
  · rw [tabulated.ofValue_eq]
    exact .refl (fun _ => rfl) _
  · rw [tabulated.ofValue_eq]
    exact .refl (fun _ => rfl) _

end Annotations

section

variable {v w owner : Value}

def Field.differs : Value → Value → Value → Prop
  | .text "annotations" => Annotations.Recoded
  | .text "typeExpr" => TypeExpr.Recoded
  | _ => Eq

/-- Values that differ at most in how the parts of a field are encoded. -/
def Field.Recoded (v w : Value) : Prop :=
  v = w ∨ Objects Field.differs v w

theorem Field.Recoded.ofValue (recoded : Field.Recoded v w) (left : v.IsWhole)
    (right : w.IsWhole) : Agree Eq (Field.ofValue owner v) (Field.ofValue owner w) := by
  rcases recoded with rfl | objects
  · exact .refl (fun _ => rfl) _
  rw [Field.ofValue, Field.ofValue]
  refine (objects.option left right "annotations").bind fun a a' given => ?_
  have encoded : Parts Annotations.Recoded (a.getD .null) (a'.getD .null) :=
    .getD given (.refl _) fun _ _ => rfl
  refine encoded.related.ofValue.bind_eq fun annotations => ?_
  refine (objects.member left right "name").bind fun name name' same => ?_
  obtain rfl : name = name' := same.related
  have ending : Agree Eq
      (do return (⟨name, ← TypeExpr.ofValue (← v.member "typeExpr"), annotations⟩ : Field))
      (do return ⟨name, ← TypeExpr.ofValue (← w.member "typeExpr"), annotations⟩) := by
    refine (objects.member left right "typeExpr").bind fun a b typed => ?_
    exact (TypeExpr.Recoded.ofValue typed.related typed.left typed.right).bind_eq fun t => .ok rfl
  cases Entries.find? annotations ScopedName.dbColumnName with
  | none => exact ending
  | some payload =>
    exact .bind_same _ fun _ => .bind_same _ fun _ => .bind_same _ fun _ => ending

/-- Values that differ at most in how fields are encoded, one by one. -/
def Field.ListRecoded (v w : Value) : Prop :=
  v = w ∨ Lists Field.Recoded v w

theorem Field.ListRecoded.ofValue (recoded : Field.ListRecoded v w) (left : v.IsWhole)
    (right : w.IsWhole) :
    Agree Eq (Field.listOfValue owner v) (Field.listOfValue owner w) := by
  rcases recoded with rfl | lists
  · exact .refl (fun _ => rfl) _
  refine (lists.items left right).bind fun items items' related => ?_
  exact .mapM_eq related fun a b field => field.related.ofValue field.left field.right

def Body.differs : Value → Value → Value → Prop
  | .text "fields" => Field.ListRecoded
  | .text "typeExpr" => TypeExpr.Recoded
  | _ => Eq

/-- Values that differ at most in how the parts of a body are encoded. -/
def Body.Recoded (v w : Value) : Prop :=
  v = w ∨ Objects Body.differs v w

private theorem Body.ofBranch_agree {kind : Value} (payloads : Parts Body.Recoded v w) :
    Agree Eq (Body.ofBranch owner ⟨kind, v⟩) (Body.ofBranch owner ⟨kind, w⟩) := by
  obtain ⟨rfl | objects, left, right⟩ := payloads
  · exact .refl (fun _ => rfl) _
  have fields (make : List Field → Body) :
      Agree Eq (do return make (← Field.listOfValue owner (← v.member "fields")))
        (do return make (← Field.listOfValue owner (← w.member "fields"))) := by
    refine (objects.member left right "fields").bind fun a b listed => ?_
    exact (Field.ListRecoded.ofValue listed.related listed.left listed.right).bind_eq
      fun fields => .ok rfl
  have type (make : TypeExpr → Body) :
      Agree Eq (do return make (← TypeExpr.ofValue (← v.member "typeExpr")))
        (do return make (← TypeExpr.ofValue (← w.member "typeExpr"))) := by
    refine (objects.member left right "typeExpr").bind fun a b typed => ?_
    exact (TypeExpr.Recoded.ofValue typed.related typed.left typed.right).bind_eq fun t => .ok rfl
  rw [Body.ofBranch, Body.ofBranch]
  refine (objects.option left right "typeParams").bind fun a b given => ?_
  have same : Parts Eq (a.getD (.list [])) (b.getD (.list [])) := .getD given rfl fun _ _ => rfl
  rw [same.related]
  refine .bind_same _ fun params => ?_
  split_ifs
  · exact fields (.struct params)
  · exact fields (.union params)
  · exact type (.newtype params)
  · exact type (.typeAlias params)
  · exact .error _ _

end

namespace Declaration

variable {v w : Value}

def differs : Value → Value → Value → Prop
  | .text "type_" => Branch.Recoded fun _ => Body.Recoded
  | .text "annotations" => Annotations.Recoded
  | _ => Eq

/-- Values that differ at most in how the parts of a declaration are encoded. -/
def Recoded (v w : Value) : Prop :=
  v = w ∨ Objects differs v w

private theorem parts_agree (objects : Objects differs v w) (left : v.IsWhole) (right : w.IsWhole) :
    Agree Eq (parts v) (parts w) := by
  rw [parts, parts]
  refine (objects.member left right "name").bind fun name name' same => ?_
  obtain rfl : name = name' := same.related
  refine (objects.member left right "type_").bind fun a b encoded => ?_
  have branches : Branch.Recoded (fun _ => Body.Recoded) a b := encoded.related
  refine (branches.ofValue_parts (fun _ _ => .inl rfl) encoded.left encoded.right).bind
    fun branch branch' both => ?_
  obtain ⟨kind, payload⟩ := branch
  obtain ⟨kind', payload'⟩ := branch'
  obtain ⟨rfl, payloads⟩ := both
  exact (Body.ofBranch_agree payloads).bind_eq fun body => .ok rfl

/-- A declaration whose name and body are not read is not read. -/
theorem exists_error {f : Fault} (failed : parts v = .error f) : ∃ f', ofValue v = .error f' := by
  rw [ofValue, failed]
  cases f with
  | mishap m =>
    simp only
    split
    · cases v.option "name" <;> exact ⟨_, rfl⟩
    · exact ⟨_, rfl⟩
  | problem _ | exit _ | endless => exact ⟨_, rfl⟩

theorem Recoded.ofValue (recoded : Recoded v w) (left : v.IsWhole) (right : w.IsWhole) :
    Agree Eq (ofValue v) (ofValue w) := by
  rcases recoded with rfl | objects
  · exact .refl (fun _ => rfl) _
  refine (parts_agree objects left right).of_first (fun _ => exists_error)
    (fun _ => exists_error) fun named parted parted' => ?_
  rw [Declaration.ofValue, Declaration.ofValue, parted, parted']
  refine (objects.option left right "annotations").bind fun a a' given => ?_
  have encoded : Parts Annotations.Recoded (a.getD .null) (a'.getD .null) :=
    .getD given (.refl _) fun _ _ => rfl
  exact encoded.related.ofValue.bind_eq fun annotations => .refl (fun _ => rfl) _

end Declaration

namespace Module

variable {v w : Value}

/-- The payload of an import of a declaration is a name, and those of other imports stay as they
are. -/
def importPayloads (kind : Value) : Value → Value → Prop :=
  if kind.isText "scopedName" then ScopedName.Recoded else Eq

private theorem importOf_of_encoded {kind payload : Value}
    (encoded : Branch.Encoded kind payload v) :
    importOf v = if kind.isText "moduleName" then .ok payload else if kind.isText "scopedName" then
        do return (← ScopedName.ofValue payload).moduleName
      else .ok .null := by
  have branched := Branch.ofValue_of_encoded encoded
  obtain ⟨entries, isMapping, -⟩ := encoded
  cases v with
  | text _ => cases isMapping
  | _ =>
    rw [importOf, branched]
    · rfl
    · exact fun _ => nofun

private theorem importOf_agree (recoded : Branch.Recoded importPayloads v w) :
    Agree Eq (importOf v) (importOf w) := by
  rcases recoded with _ | ⟨encoded, encoded', payloads⟩
  · exact .refl (fun _ => rfl) _
  rw [importOf_of_encoded encoded, importOf_of_encoded encoded']
  rw [importPayloads] at payloads
  split at payloads
  · rename_i kind _ _ isScoped
    have other : ¬ kind.isText "moduleName" := by
      rw [Value.eq_text_of_isText isScoped]
      decide
    rw [if_neg other, if_neg other, if_pos isScoped, if_pos isScoped]
    exact payloads.ofValue.bind_eq fun name => .ok rfl
  · rw [payloads]
    exact .refl (fun _ => rfl) _

/-- Values that differ at most in how imports are encoded, one by one. -/
def ImportsRecoded (v w : Value) : Prop :=
  v = w ∨ Lists (Branch.Recoded importPayloads) v w

theorem ImportsRecoded.ofValue (recoded : ImportsRecoded v w) (left : v.IsWhole)
    (right : w.IsWhole) : Agree Eq (importsOf v) (importsOf w) := by
  rcases recoded with rfl | lists
  · exact .refl (fun _ => rfl) _
  rw [importsOf, importsOf]
  refine (lists.items left right).bind fun items items' related => ?_
  exact (Agree.mapM_eq related fun a b parts => importOf_agree parts.related).bind_eq
    fun names => .ok rfl

/-- Values that differ at most in how declarations are encoded, one by one. -/
def DeclsRecoded (v w : Value) : Prop :=
  v = w ∨ Objects (fun _ => Declaration.Recoded) v w

private theorem declsOf_agree {entries entries' : List (Value × Value)}
    (done : List (Value × Declaration))
    (related : List.Forall₂ (fun e e' => e.1 = e'.1 ∧ Parts Declaration.Recoded e.2 e'.2)
      entries entries') : Agree Eq (declsOf done entries) (declsOf done entries') := by
  induction related generalizing done with
  | nil => exact .ok rfl
  | @cons entry entry' _ _ first _ ih =>
    obtain ⟨key, v⟩ := entry
    obtain ⟨_, w⟩ := entry'
    obtain ⟨rfl, encoded⟩ := first
    rw [declsOf, declsOf]
    refine (encoded.related.ofValue encoded.left encoded.right).bind_eq fun d => ?_
    exact .bind_same _ fun done => ih done

def differs : Value → Value → Value → Prop
  | .text "decls" => DeclsRecoded
  | .text "imports" => ImportsRecoded
  | .text "annotations" => Annotations.Recoded
  | _ => Eq

/-- Values that differ at most in how the parts of a module are encoded. -/
def Recoded (v w : Value) : Prop :=
  v = w ∨ Objects differs v w

private theorem parts_agree (objects : Objects differs v w) (left : v.IsWhole) (right : w.IsWhole) :
    Agree Eq (parts v) (parts w) := by
  rw [parts, parts]
  refine (objects.member left right "name").bind fun name name' same => ?_
  obtain rfl : name = name' := same.related
  refine (objects.option left right "decls").bind fun a b given => ?_
  have encoded : Parts DeclsRecoded (a.getD (.mapping [])) (b.getD (.mapping [])) :=
    .getD given (.inl rfl) fun _ _ => rfl
  generalize a.getD (.mapping []) = a, b.getD (.mapping []) = b at encoded
  obtain ⟨rfl | decls, left, right⟩ := encoded
  · exact .refl (fun _ => rfl) _
  refine (decls.entries left right).bind fun entries entries' related => ?_
  exact (declsOf_agree [] related).bind_eq fun decls => .ok rfl

/-- A module whose name and declarations are not read is not read. -/
theorem exists_error {f : Fault} (failed : parts v = .error f) : ∃ f', ofValue v = .error f' := by
  rw [ofValue, failed]
  cases f with
  | mishap m =>
    simp only
    split <;> exact ⟨_, rfl⟩
  | problem _ | exit _ | endless => exact ⟨_, rfl⟩

/-- What a document encodes does not depend on how its parts are encoded. Nothing dangles in a
document, so either is a whole value. -/
theorem ofValue_eq_ok_of_recoded (recoded : Recoded v w) (left : v.IsWhole) (right : w.IsWhole)
    (m : Module) :
    ofValue v = .ok m ↔ ofValue w = .ok m := by
  refine Agree.iff_eq.1 ?_ m
  rcases recoded with rfl | objects
  · exact .refl (fun _ => rfl) _
  refine (parts_agree objects left right).of_first (fun _ => exists_error)
    (fun _ => exists_error) fun named parted parted' => ?_
  rw [ofValue, ofValue, parted, parted']
  refine (objects.option left right "imports").bind fun a b given => ?_
  have imports : Parts ImportsRecoded (a.getD (.list [])) (b.getD (.list [])) :=
    .getD given (.inl rfl) fun _ _ => rfl
  refine (imports.related.ofValue imports.left imports.right).bind_eq fun imported => ?_
  refine (objects.option left right "annotations").bind fun a b given => ?_
  have annotations : Parts Annotations.Recoded (a.getD .null) (b.getD .null) :=
    .getD given (.refl _) fun _ _ => rfl
  exact annotations.related.ofValue.bind_eq fun annotated => .ok rfl

end Module

namespace Towns

/-- An object with texts as keys. -/
def object (entries : List (String × Value)) : Value :=
  .mapping (entries.map fun e => (.text e.1, e.2))

/-- How a document writes branches, names, annotations of fields, and those of declarations. -/
structure Style where
  branch : String → Value → Value
  name : String → String → Value
  column : Value → Value → Value
  tables : Value

/-- The type of towns, which may have a twin. -/
def Style.town (style : Style) : Value :=
  object [("typeRef", style.branch "reference" (style.name "geo" "Town"))]

def Style.twin (style : Style) : Value :=
  object [("typeRef", style.branch "reference" (style.name "sys.types" "Maybe")),
    ("parameters", .list [style.town])]

/-- The annotations of the field for twins. -/
def Style.annotations (style : Style) : Value :=
  .list [style.column (style.name "common.db" "DbColumnName") (.text "twin_id")]

def Style.field (style : Style) : Value :=
  object [("name", .text "twin"), ("typeExpr", style.twin), ("annotations", style.annotations)]

def Style.body (style : Style) : Value :=
  object [("fields", .list [style.field])]

def Style.declaration (style : Style) : Value :=
  object [("name", .text "Town"),
    ("type_", style.branch "struct_" style.body), ("annotations", style.tables)]

def Style.imports (style : Style) : Value :=
  .list [style.branch "scopedName" (style.name "common.db" "DbTable")]

def Style.document (style : Style) : Value :=
  object [("name", .text "geo"), ("decls", object [("Town", style.declaration)]),
    ("imports", style.imports)]

/-- Branches are keys, names are objects, and annotations are lists. -/
def long : Style where
  branch kind payload := object [(kind, payload)]
  name moduleName name := object [("moduleName", .text moduleName), ("name", .text name)]
  column name payload := object [("v1", name), ("v2", payload)]
  tables := .list [object [
    ("k", object [("moduleName", .text "common.db"), ("name", .text "DbTable")]),
    ("v", object [])]]

/-- Branches name their kind, names are texts, and tables stand in a mapping. -/
def short : Style where
  branch kind payload := object [("kind", .text kind), ("value", payload)]
  name moduleName name := .text (moduleName ++ "." ++ name)
  column name payload := object [("key", name), ("value", payload)]
  tables := object [("common.db.DbTable", object [])]

private theorem recoded_name (moduleName name : String)
    (plain : ScopedName.IsPlain moduleName name) :
    ScopedName.Recoded (long.name moduleName name) (short.name moduleName name) :=
  .spelled plain (.inr ⟨_, rfl, rfl, rfl⟩) (.inl rfl)

private theorem recoded_branch {payloads : Value → Value → Value → Prop} {kind : String}
    {payload payload' : Value} (other : kind ≠ "kind")
    (related : payloads (.text kind) payload payload') :
    Branch.Recoded payloads (long.branch kind payload) (short.branch kind payload') :=
  .encoded ⟨_, rfl, .inl ⟨rfl, by simpa using other⟩⟩ ⟨_, rfl, .inr ⟨rfl, rfl⟩⟩ related

private theorem spelled_pair {nameKey valueKey : String} (name payload : Value)
    (known : (nameKey, valueKey) ∈ Annotations.spellings) :
    Annotations.Spelled name payload (object [(nameKey, name), (valueKey, payload)]) := by
  refine ⟨_, rfl, (nameKey, valueKey), known, ?_⟩
  simp only [Annotations.spellings, List.mem_cons, List.not_mem_nil, or_false,
    Prod.mk.injEq] at known
  rcases known with ⟨rfl, rfl⟩ | ⟨rfl, rfl⟩ | ⟨rfl, rfl⟩ <;>
    simp [Annotations.spellings, Value.find?, Value.isText]

private theorem recoded_town : TypeExpr.Recoded long.town short.town := by
  have name := recoded_name "geo" "Town" ⟨by decide, by decide⟩
  rintro (_ | depth)
  · trivial
  · exact .inr ⟨_, _, rfl, rfl, .cons ⟨rfl, recoded_branch (by decide) name⟩ .nil⟩

private theorem recoded_twin : TypeExpr.Recoded long.twin short.twin := by
  have name := recoded_name "sys.types" "Maybe" ⟨by decide, by decide⟩
  rintro (_ | depth)
  · trivial
  · have parameters := List.Forall₂.cons (recoded_town depth) .nil
    exact .inr ⟨_, _, rfl, rfl, .cons ⟨rfl, recoded_branch (by decide) name⟩
      (.cons ⟨rfl, .inr ⟨_, _, rfl, rfl, parameters⟩⟩ .nil)⟩

private theorem recoded_annotations : Annotations.Recoded long.annotations short.annotations := by
  have name := recoded_name "common.db" "DbColumnName"
    ⟨by decide, by decide⟩
  exact .lists ⟨_, _, rfl, rfl, .cons (.spelled (spelled_pair _ _ (by decide))
    (spelled_pair _ _ (by decide)) name) .nil⟩

private theorem recoded_tables : Annotations.Recoded long.tables short.tables :=
  .tabulated ⟨_, _, rfl, rfl, .cons ⟨"common.db", "DbTable", _, ⟨by decide, by decide⟩,
    .inr ⟨_, rfl, rfl, rfl⟩, spelled_pair _ _ (by decide), rfl⟩ .nil⟩

private theorem recoded_field : Field.Recoded long.field short.field :=
  .inr ⟨_, _, rfl, rfl, .cons ⟨rfl, rfl⟩
    (.cons ⟨rfl, recoded_twin⟩ (.cons ⟨rfl, recoded_annotations⟩ .nil))⟩

private theorem recoded_body : Body.Recoded long.body short.body :=
  .inr ⟨_, _, rfl, rfl, .cons ⟨rfl, .inr ⟨_, _, rfl, rfl, .cons recoded_field .nil⟩⟩ .nil⟩

private theorem recoded_declaration : Declaration.Recoded long.declaration short.declaration :=
  .inr ⟨_, _, rfl, rfl, .cons ⟨rfl, rfl⟩ (.cons ⟨rfl, recoded_branch (by decide) recoded_body⟩
    (.cons ⟨rfl, recoded_tables⟩ .nil))⟩

private theorem recoded_imports : Module.ImportsRecoded long.imports short.imports := by
  have name := recoded_name "common.db" "DbTable" ⟨by decide, by decide⟩
  exact .inr ⟨_, _, rfl, rfl, .cons (recoded_branch (by decide) name) .nil⟩

private theorem recoded_module : Module.Recoded long.document short.document :=
  .inr ⟨_, _, rfl, rfl, .cons ⟨rfl, rfl⟩
    (.cons ⟨rfl, .inr ⟨_, _, rfl, rfl, .cons ⟨rfl, recoded_declaration⟩ .nil⟩⟩
      (.cons ⟨rfl, recoded_imports⟩ .nil))⟩

/-- Both documents encode one module. -/
theorem module_of_long_and_short : Module.Recoded long.document short.document ∧
    long.document.IsWhole ∧ short.document.IsWhole ∧
    ∃ m, Module.ofValue long.document = .ok m ∧ Module.ofValue short.document = .ok m := by
  have whole : long.document.IsWhole := fun _ _ => rfl
  have whole' : short.document.IsWhole := fun _ _ => rfl
  refine ⟨recoded_module, whole, whole', _, rfl, ?_⟩
  exact (Module.ofValue_eq_ok_of_recoded recoded_module whole whole' _).1 rfl

end Towns

end AdlTables
