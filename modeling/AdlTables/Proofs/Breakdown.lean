import AdlTables.Proofs.Encodings

/-! # Breakdowns of readers

Readers of documents report what is wrong with them. Inside a declaration a part that is missing, or
that is of the wrong kind, is reported for the declaration or for its module. What is left are types
that go deeper than a document has parts, names with a number that cannot be written, and whatever a
module says of its imports and annotations, which nothing catches.
-/

namespace AdlTables

/-- Problems, and breakdowns of some kinds. -/
def Fault.IsWithin (breaks : Mishap → Prop) : Fault → Prop
  | problem _ => True
  | mishap m => breaks m
  | exit _ | endless => False

/-- A computation reports its failures but for breakdowns of some kinds. -/
def Confined {α : Type} (breaks : Mishap → Prop) (x : Except Fault α) : Prop :=
  ∀ fault, x = .error fault → fault.IsWithin breaks

namespace Confined

variable {α β : Type} {breaks breaks' : Mishap → Prop} {x : Except Fault α}

theorem ok (a : α) : Confined breaks (.ok a : Except Fault α) := by
  intro fault failed
  cases failed

theorem raise (p : Problem) : Confined breaks (Fault.raise p : Except Fault α) := by
  intro fault failed
  cases failed
  trivial

theorem breakDown {m : Mishap} (allowed : breaks m) :
    Confined breaks (Fault.breakDown m : Except Fault α) := by
  intro fault failed
  cases failed
  exact allowed

theorem mono (confined : Confined breaks x) (weaker : ∀ m, breaks m → breaks' m) :
    Confined breaks' x := by
  intro fault failed
  have within := confined fault failed
  cases fault with
  | problem _ => trivial
  | mishap m => exact weaker m within
  | exit _ | endless => exact within

/-- What reports all failures may be used where some are not. -/
theorem any (confined : Confined (fun _ => False) x) : Confined breaks x :=
  confined.mono fun _ => False.elim

theorem bind {f : α → Except Fault β} (first : Confined breaks x)
    (rest : ∀ a, x = .ok a → Confined breaks (f a)) : Confined breaks (x >>= f) := by
  intro fault failed
  rcases Outcome.bind_eq_error.1 failed with here | ⟨a, given, later⟩
  · exact first fault here
  · exact rest a given fault later

theorem mapM {f : α → Except Fault β} {items : List α}
    (each : ∀ a ∈ items, Confined breaks (f a)) : Confined breaks (items.mapM f) := by
  intro fault failed
  obtain ⟨a, member, here⟩ := Outcome.exists_of_mapM_eq_error failed
  exact each a member fault here

end Confined

namespace Value

variable {whole v w w' : Value} {key : String}

/-- The values that readers come to in a value: they open it if it is shared, and go on to what
stands under its keys and to what it runs through. -/
inductive Part (whole : Value) : Value → Prop
  | whole : Part whole whole
  | under {v key w : Value} {entries : List (Value × Value)} : Part whole v →
    v.bare = .mapping entries → (key, w) ∈ entries → Part whole w
  | item {v w : Value} {items : List Value} : Part whole v → v.items? = some items → w ∈ items →
    Part whole w

theorem Part.of_find? {entries : List (Value × Value)} (part : whole.Part v)
    (isMapping : v.bare = .mapping entries) (found : find? entries key = some w) :
    whole.Part w :=
  part.under isMapping (mem_of_find? found)

private theorem Part.of_member (part : whole.Part v) (given : v.member key = .ok w) :
    whole.Part w := by
  rw [member] at given
  split at given
  · split at given
    · cases given
      exact part.of_find? ‹_› ‹_›
    · cases given
  · cases given

private theorem Part.of_option (part : whole.Part v) (given : v.option key = .ok (some w)) :
    whole.Part w := by
  rw [option] at given
  split at given
  · exact part.of_find? ‹_› (Except.ok.inj given)
  · cases given

private theorem items_eq_ok {items : List Value} : v.items = .ok items ↔ v.items? = some items := by
  rw [Value.items]
  cases v.items? <;> simp [Fault.breakDown]

theorem Part.of_items {items : List Value} (part : whole.Part v) (given : v.items = .ok items)
    (member : w ∈ items) : whole.Part w :=
  part.item (items_eq_ok.1 given) member

private theorem Part.of_entries {entries : List (Value × Value)} (part : whole.Part v)
    (given : v.entries = .ok entries) (member : (w, w') ∈ entries) : whole.Part w' := by
  rw [Value.entries] at given
  split at given
  · cases given
    exact part.under ‹_› member
  · cases given

private theorem member_confined : Confined (·.isLack) (v.member key) := by
  rw [Value.member]
  split
  · split
    · exact .ok _
    · exact .breakDown rfl
  · exact .breakDown rfl

/-- A value that has no keys, opened or not. -/
def IsFlat (v : Value) : Prop :=
  ∀ entries, v.bare ≠ .mapping entries

private theorem option_confined : Confined (fun m => v.IsFlat ∧ m = .noMember) (v.option key) := by
  rw [Value.option]
  split
  · exact .ok _
  · rename_i flat
    exact .breakDown ⟨flat, rfl⟩

private theorem entries_confined : Confined (fun m => v.IsFlat ∧ m = .noMember) v.entries := by
  rw [Value.entries]
  split
  · exact .ok _
  · rename_i flat
    exact .breakDown ⟨flat, rfl⟩

private theorem holds_confined : Confined (fun m => v.IsFlat ∧ m = .wrongKind) (v.holds key) := by
  have flat (other : v.IsFlat) : Confined (fun m => v.IsFlat ∧ m = .wrongKind) (v.holds key) := by
    rw [Value.holds]
    split <;> first | exact .ok _ | exact .breakDown ⟨other, rfl⟩
  by_cases isMapping : ∃ entries, v.bare = .mapping entries
  · obtain ⟨entries, isMapping⟩ := isMapping
    rw [Value.holds, isMapping]
    exact .ok _
  · exact flat fun entries same => isMapping ⟨entries, same⟩

/-- Under a key that a value holds there is something, unless it holds it otherwise. -/
theorem member_of_holds (holds : v.holds key = .ok true) :
    Confined (fun m => v.IsFlat ∧ m = .wrongKind) (v.member key) := by
  rw [Value.member]
  split
  · rename_i entries isMapping
    split
    · exact .ok _
    · rename_i absent
      simp [Value.holds, isMapping, absent] at holds
  · rename_i flat
    exact .breakDown ⟨flat, rfl⟩

/-- A value runs through nothing only if it is of the wrong kind. -/
theorem items_confined : Confined (fun m => v.items? = none ∧ m = .wrongKind) v.items := by
  rw [Value.items]
  split
  · exact .ok _
  · exact .breakDown ⟨‹_›, rfl⟩

theorem say_confined : Confined (fun m => v.isSayable = false ∧ m = .badValue) v.say := by
  rw [Value.say]
  split
  · exact .ok _
  · rename_i unsayable
    exact .breakDown ⟨Bool.not_eq_true _ ▸ unsayable, rfl⟩

end Value

variable {whole v w : Value} {m : Mishap}

theorem ScopedName.ofValue_confined : Confined (fun _ => False) (ScopedName.ofValue v) := by
  rw [ScopedName.ofValue]
  split
  · dsimp only
    split
    · exact .raise _
    · exact .ok _
  · split
    · exact .ok _
    · exact .raise _
  · exact .raise _

theorem Branch.ofValue_confined : Confined (fun _ => False) (Branch.ofValue v) := by
  rw [Branch.ofValue]
  split
  · exact .ok _
  · split
    · exact .ok _
    · split
      · exact .ok _
      · exact .raise _
  · exact .raise _

private theorem Branch.typeRef_confined {b : Branch} : Confined (fun _ => False) b.typeRef := by
  rw [Branch.typeRef]
  split
  · exact .ok _
  · split
    · exact .ok _
    · split
      · exact ScopedName.ofValue_confined.bind fun _ _ => .ok _
      · exact .raise _

/-- What is in a branch is in the value that encodes it. -/
theorem Branch.part_payload {b : Branch} (part : whole.Part v) (read : ofValue v = .ok b) :
    b.payload = .null ∨ whole.Part b.payload := by
  rw [ofValue] at read
  split at read
  · cases read
    exact .inl rfl
  · split at read
    · rename_i entries isMapping _ _ _
      cases read
      cases found : Value.find? entries "value" with
      | none => exact .inl rfl
      | some w => exact .inr (part.of_find? isMapping found)
    · split at read
      · cases read
        exact .inr (part.under ‹_› List.mem_cons_self)
      · cases read
  · cases read

namespace TypeExpr

private theorem unlisted_confined : Confined (fun _ => False) (unlisted v w) := by
  rw [unlisted]
  split
  · exact .ok _
  · exact .raise _
  · exact .raise _

/-- A type is followed too deep only if it goes as deep. -/
theorem ofValueWithin_confined {depth : Nat} :
    Confined (fun m => m = .tooDeep ∧ ¬ v.EndsWithin inner depth) (ofValueWithin depth v) := by
  induction depth generalizing v with
  | zero => exact .breakDown ⟨rfl, nofun⟩
  | succ depth ih =>
    rw [ofValueWithin]
    split
    · rename_i entries isMapping
      split
      · exact .raise _
      · apply Branch.ofValue_confined.any.bind
        intro branch _
        refine Confined.bind ?_ fun args _ => Branch.typeRef_confined.any.bind fun _ _ => .ok _
        cases given : Value.find? entries "parameters" with
        | none => exact .ok _
        | some parameters =>
          simp only [argsOf]
          split
          · rename_i items isList
            apply Confined.mapM
            intro c member
            apply ih.mono
            rintro m ⟨isDeep, deep⟩
            refine ⟨isDeep, fun ends => deep ?_⟩
            exact endsWithin_argument ends isMapping given (by rwa [isList])
          · exact unlisted_confined.any
    · exact .raise _

end TypeExpr

namespace Annotations

/-- What breaks down where annotations are read: they run through nothing, an entry of their list is
no mapping, or a part of a name in them is no key. -/
inductive Breaks (v : Value) : Mishap → Prop
  | scattered : v.isEmpty = false → v.items? = none → Breaks v .wrongKind
  | entry {items : List Value} {e : Value} {m : Mishap} : v.items? = some items → e ∈ items →
    e.IsFlat → m = .wrongKind ∨ m = .noMember → Breaks v m
  | name {x : Value} {name : ScopedName} : v.Part x → ScopedName.ofValue x = .ok name →
    name.isKey = false → Breaks v .wrongKind

private theorem insert_confined {done : Annotations} {name : ScopedName} :
    Confined (fun m => name.isKey = false ∧ m = .wrongKind) (insert done name w) := by
  rw [insert]
  split
  · exact .ok _
  · rename_i noKey
    exact .breakDown ⟨Bool.not_eq_true _ ▸ noKey, rfl⟩

/-- An entry of a list breaks down only if it has no keys. -/
theorem ofEntry_confined {spellings : List (String × String)} :
    Confined (fun m => v.IsFlat ∧ (m = .wrongKind ∨ m = .noMember)) (ofEntry v spellings) := by
  induction spellings with
  | nil => exact .raise _
  | cons spelling rest ih =>
    rw [ofEntry]
    apply (Value.holds_confined.mono fun m => And.imp_right .inl).bind
    intro present holds
    split
    · rename_i isPresent
      apply (Value.option_confined.mono fun m => And.imp_right .inr).bind
      intro payload _
      rw [isPresent] at holds
      apply ((Value.member_of_holds holds).mono fun m => And.imp_right .inl).bind
      intro name _
      exact ScopedName.ofValue_confined.any.bind fun _ _ => .ok _
    · exact ih

/-- The name in an entry of a list is a part of the entry. -/
theorem part_of_ofEntry {spellings : List (String × String)} {name : ScopedName} {payload : Value}
    (part : whole.Part v) (read : ofEntry v spellings = .ok (name, payload)) :
    ∃ x, whole.Part x ∧ ScopedName.ofValue x = .ok name := by
  induction spellings with
  | nil => cases read
  | cons spelling rest ih =>
    rw [ofEntry] at read
    obtain ⟨present, -, read⟩ := Outcome.bind_eq_ok.1 read
    split at read
    · obtain ⟨_, -, read⟩ := Outcome.bind_eq_ok.1 read
      obtain ⟨x, given, read⟩ := Outcome.bind_eq_ok.1 read
      obtain ⟨_, named, same⟩ := Outcome.bind_eq_ok.1 read
      cases same
      exact ⟨x, part.of_member given, named⟩
    · exact ih read

private theorem ofList_confined {items entries : List Value} {done : Annotations}
    (isList : v.items? = some items) (among : entries ⊆ items) :
    Confined (Breaks v) (ofList done entries) := by
  induction entries generalizing done with
  | nil => exact .ok _
  | cons e rest ih =>
    have member : e ∈ items := among List.mem_cons_self
    rw [ofList]
    have entry : Confined (Breaks v) (ofEntry e spellings) := by
      apply ofEntry_confined.mono
      rintro m ⟨flat, kind⟩
      exact .entry isList member flat kind
    apply entry.bind
    intro read isRead
    obtain ⟨x, part, named⟩ := part_of_ofEntry (.item .whole isList member) isRead
    refine (insert_confined.mono ?_).bind fun _ _ =>
      ih fun e' later => among (List.mem_cons_of_mem _ later)
    rintro _ ⟨noKey, rfl⟩
    exact .name part named noKey

private theorem ofMapping_confined {entries : List (Value × Value)} {done : Annotations}
    (keys : ∀ entry ∈ entries, v.Part entry.1) : Confined (Breaks v) (ofMapping done entries) := by
  induction entries generalizing done with
  | nil => exact .ok _
  | cons entry rest ih =>
    rw [ofMapping]
    apply ScopedName.ofValue_confined.any.bind
    intro name named
    refine (insert_confined.mono ?_).bind fun _ _ =>
      ih fun entry' later => keys entry' (List.mem_cons_of_mem _ later)
    rintro _ ⟨noKey, rfl⟩
    exact .name (keys entry List.mem_cons_self) named noKey

theorem ofValue_confined : Confined (Breaks v) (ofValue v) := by
  rw [ofValue]
  split
  · exact .ok _
  · rename_i given
    split
    · rename_i entries isMapping
      have keys : v.items? = some (entries.map (·.1)) := by rw [Value.items?, isMapping]
      exact ofMapping_confined fun entry member =>
        .item .whole keys (List.mem_map_of_mem member)
    · refine (Value.items_confined.mono ?_).bind fun items isList =>
        ofList_confined (Value.items_eq_ok.1 isList) (List.Subset.refl _)
      rintro _ ⟨scattered, rfl⟩
      exact .scattered (Bool.not_eq_true _ ▸ given) scattered

end Annotations

/-- What breaks down inside a declaration: a part is missing or of the wrong kind, a type goes
deeper than it has parts, or a name holds a number that cannot be written. -/
inductive Value.Trips (whole : Value) : Mishap → Prop
  | lack {m : Mishap} : m.isLack → Trips whole m
  | deep {t : Value} : whole.Part t → ¬ t.EndsWithin TypeExpr.inner (t.size + 1) →
    Trips whole .tooDeep
  | unsayable {x : Value} : whole.Part x → x.isSayable = false → Trips whole .badValue

namespace Value

variable {key : String}

private theorem member_trips : Confined whole.Trips (v.member key) :=
  member_confined.mono fun _ => .lack

private theorem option_trips : Confined whole.Trips (v.option key) := by
  refine option_confined.mono ?_
  rintro _ ⟨-, rfl⟩
  exact .lack rfl

private theorem entries_trips : Confined whole.Trips v.entries := by
  refine entries_confined.mono ?_
  rintro _ ⟨-, rfl⟩
  exact .lack rfl

private theorem items_trips : Confined whole.Trips v.items := by
  refine items_confined.mono ?_
  rintro _ ⟨-, rfl⟩
  exact .lack rfl

private theorem say_trips (part : whole.Part v) : Confined whole.Trips v.say := by
  refine say_confined.mono ?_
  rintro _ ⟨unsayable, rfl⟩
  exact .unsayable part unsayable

end Value

theorem Annotations.Breaks.isLack (breaks : Annotations.Breaks v m) : m.isLack := by
  cases breaks with
  | entry _ _ _ kind => rcases kind with rfl | rfl <;> rfl
  | _ => rfl

private theorem Annotations.ofValue_trips : Confined whole.Trips (Annotations.ofValue v) :=
  Annotations.ofValue_confined.mono fun _ breaks => .lack breaks.isLack

private theorem TypeExpr.ofValue_trips (part : whole.Part v) :
    Confined whole.Trips (TypeExpr.ofValue v) := by
  refine TypeExpr.ofValueWithin_confined.mono ?_
  rintro _ ⟨rfl, deep⟩
  exact .deep part deep

private theorem columnNameOf_confined : Confined (fun _ => False) (columnNameOf v w) := by
  cases v with
  | text s =>
    rw [columnNameOf]
    split
    · exact .raise _
    · exact .ok _
  | _ => exact .raise _

theorem TableRequest.ofValue_confined : Confined (fun _ => False) (TableRequest.ofValue v w) := by
  rw [TableRequest.ofValue]
  split
  · exact .ok _
  · exact .raise _

namespace Field

theorem ofValue_confined {owner : Value} (named : whole.Part owner) (part : whole.Part v) :
    Confined whole.Trips (ofValue owner v) := by
  rw [ofValue]
  apply Value.option_trips.bind
  intro annotations _
  apply Annotations.ofValue_trips.bind
  intro annotations _
  apply Value.member_trips.bind
  intro name given
  have rest : Confined whole.Trips (do
      let type ← TypeExpr.ofValue (← v.member "typeExpr")
      return (⟨name, type, annotations⟩ : Field)) := by
    apply Value.member_trips.bind
    intro type given
    exact (TypeExpr.ofValue_trips (part.of_member given)).bind fun _ _ => .ok _
  split
  · apply (Value.say_trips named).bind
    intro _ _
    apply (Value.say_trips (part.of_member given)).bind
    intro _ _
    exact columnNameOf_confined.any.bind fun _ _ => rest
  · exact rest

private theorem listOfValue_confined {owner : Value} (named : whole.Part owner)
    (part : whole.Part v) : Confined whole.Trips (listOfValue owner v) := by
  rw [listOfValue]
  apply Value.items_trips.bind
  intro items given
  exact .mapM fun e member => ofValue_confined named (part.of_items given member)

end Field

private theorem Body.ofBranch_confined {owner : Value} {b : Branch} (named : whole.Part owner)
    (part : b.payload = .null ∨ whole.Part b.payload) :
    Confined whole.Trips (Body.ofBranch owner b) := by
  rw [ofBranch]
  apply Value.option_trips.bind
  intro params given
  apply Value.items_trips.bind
  intro params _
  -- a branch without a payload has been refused by now
  rcases part with isNull | part
  · rw [isNull] at given
    cases given
  have fields (body : List Field → Body) : Confined whole.Trips (do
      return body (← Field.listOfValue owner (← b.payload.member "fields"))) :=
    Value.member_trips.bind fun v given =>
      (Field.listOfValue_confined named (part.of_member given)).bind fun _ _ => .ok _
  have type (body : TypeExpr → Body) : Confined whole.Trips (do
      return body (← TypeExpr.ofValue (← b.payload.member "typeExpr"))) :=
    Value.member_trips.bind fun v given =>
      (TypeExpr.ofValue_trips (part.of_member given)).bind fun _ _ => .ok _
  split
  · exact fields _
  split
  · exact fields _
  split
  · exact type _
  split
  · exact type _
  exact .raise _

namespace Declaration

private theorem parts_confined (part : whole.Part v) : Confined whole.Trips (parts v) := by
  rw [parts]
  apply Value.member_trips.bind
  intro name given
  apply Value.member_trips.bind
  intro type given'
  apply Branch.ofValue_confined.any.bind
  intro branch read
  have inBranch := Branch.part_payload (part.of_member given') read
  exact (Body.ofBranch_confined (part.of_member given) inBranch).bind fun _ _ => .ok _

theorem ofValue_confined (part : whole.Part v) : Confined whole.Trips (ofValue v) := by
  have parts_within := parts_confined part
  rw [ofValue]
  split
  · rename_i m tripped
    split
    · exact Value.option_trips.bind fun _ _ => .raise _
    · exact .breakDown (parts_within _ tripped)
  · rename_i fault failed
    intro fault' same
    cases same
    exact parts_within _ failed
  · apply Value.option_trips.bind
    intro annotations _
    apply Annotations.ofValue_trips.bind
    intro annotations _
    split
    · exact TableRequest.ofValue_confined.any.bind fun _ _ => .ok _
    · exact .ok _

end Declaration

namespace Module

/-- What breaks down where a module is read: something inside its declarations that is no lack, a
list of imports that runs through nothing, or annotations of the module itself. -/
inductive Breaks (v : Value) : Mishap → Prop
  | inside {m : Mishap} : v.Trips m → m.isLack = false → Breaks v m
  | imports {w : Value} : v.option "imports" = .ok (some w) → w.items? = none →
    Breaks v .wrongKind
  | annotations {w : Value} {m : Mishap} : v.option "annotations" = .ok (some w) →
    Annotations.Breaks w m → Breaks v m

private theorem declsOf_confined {done : List (Value × Declaration)}
    {entries : List (Value × Value)} (parts : ∀ entry ∈ entries, whole.Part entry.2) :
    Confined whole.Trips (declsOf done entries) := by
  induction entries generalizing done with
  | nil => exact .ok _
  | cons entry rest ih =>
    rw [declsOf]
    apply (Declaration.ofValue_confined (parts entry List.mem_cons_self)).bind
    intro d _
    refine Confined.bind ?_ fun _ _ =>
      ih fun entry' later => parts entry' (List.mem_cons_of_mem _ later)
    rw [insert]
    split
    · exact .ok _
    · exact .breakDown (.lack rfl)

private theorem parts_confined : Confined v.Trips (parts v) := by
  rw [parts]
  apply Value.member_trips.bind
  intro name _
  apply Value.option_trips.bind
  intro decls given
  apply Value.entries_trips.bind
  intro entries isMapping
  refine Confined.bind (declsOf_confined fun entry member => ?_) fun _ _ => .ok _
  cases decls with
  | none =>
    cases isMapping
    cases member
  | some w => exact (Value.Part.whole.of_option given).of_entries isMapping member

private theorem importOf_confined : Confined (fun _ => False) (importOf v) := by
  unfold importOf
  split
  · exact .ok _
  · apply Branch.ofValue_confined.bind
    intro branch _
    split
    · exact .ok _
    · split
      · exact ScopedName.ofValue_confined.bind fun _ _ => .ok _
      · exact .ok _

private theorem importsOf_confined :
    Confined (fun m => v.items? = none ∧ m = .wrongKind) (importsOf v) := by
  rw [importsOf]
  apply Value.items_confined.bind
  intro items _
  refine Confined.bind (.mapM fun e _ => ?_) fun _ _ => .ok _
  exact importOf_confined.any

theorem ofValue_confined : Confined (Breaks v) (ofValue v) := by
  have parts_within := parts_confined (v := v)
  rw [ofValue]
  split
  · rename_i m tripped
    split
    · exact .raise _
    · rename_i noLack
      exact .breakDown (.inside (parts_within _ tripped) (Bool.not_eq_true _ ▸ noLack))
  · rename_i fault other failed
    rintro _ ⟨⟩
    have within := parts_within _ failed
    cases fault with
    | problem _ => trivial
    | mishap m => exact absurd rfl (other m)
    | exit _ | endless => exact within
  · rename_i name decls read
    have keys : ¬ v.IsFlat := by
      intro flat
      obtain ⟨_, given, -⟩ := Outcome.bind_eq_ok.1 read
      rw [Value.member] at given
      split at given
      · exact flat _ ‹_›
      · cases given
    have option {key : String} : Confined (Breaks v) (v.option key) := by
      apply Value.option_confined.mono
      rintro m ⟨flat, -⟩
      exact absurd flat keys
    apply option.bind
    intro imports given
    refine Confined.bind ?_ fun names _ => ?_
    · cases imports with
      | none => exact .ok _
      | some w =>
        refine importsOf_confined.mono ?_
        rintro _ ⟨scattered, rfl⟩
        exact .imports given scattered
    apply option.bind
    intro annotations given
    refine Confined.bind ?_ fun _ _ => .ok _
    cases annotations with
    | none => exact .ok _
    | some w => exact Annotations.ofValue_confined.mono fun m => .annotations given

end Module

end AdlTables
