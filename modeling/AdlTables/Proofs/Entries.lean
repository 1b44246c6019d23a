import AdlTables.Proofs.Declared

/-! # Entries as a map

What is found in a table after an entry is put into it, and in a table that pairs build: the value
that was put last under the key. Where no entry has the key, putting one only adds it at the end.
-/

namespace AdlTables

namespace Value

variable {a b c : Value}

private theorem eq_text_of_key? {s : String} (isText : a.key? = some (.text s)) : a = .text s := by
  cases a with
  | text t => simpa using isText
  | float x =>
    rw [key?] at isText
    split at isText <;> cases isText
  | pair k v => simp [key?, Option.bind_eq_some_iff] at isText
  | _ => cases isText

theorem eq_text_of_same {s : String} (like : a.same (.text s)) : a = .text s := by
  obtain ⟨k, left, right⟩ := same_iff.1 like
  obtain rfl : .text s = k := by simpa using right
  exact eq_text_of_key? left

theorem text?_eq_some {s : String} : a.text? = some s ↔ a = .text s := by
  cases a <;> simp [text?]

theorem map_text?_eq {values : List Value} {texts : List String} :
    values.map text? = texts.map some ↔ values = texts.map .text := by
  induction values generalizing texts with
  | nil => cases texts <;> simp
  | cons v rest ih => cases texts <;> simp [ih, text?_eq_some]

private theorem same_congr_left (like : a.same b) : a.same c = b.same c := by
  obtain ⟨k, left, right⟩ := same_iff.1 like
  simp only [same_eq_key, left, right]

theorem same_trans (first : a.same b) (second : b.same c) : a.same c :=
  (same_congr_left first).trans second

theorem same_comm (a b : Value) : a.same b = b.same a := by
  rw [Bool.eq_iff_iff, same_iff, same_iff]
  simp only [and_comm]

theorem same_symm (like : a.same b) : b.same a :=
  same_comm a b ▸ like

end Value

/-- A name that is the same as one of texts is this name. -/
theorem ScopedName.eq_of_same {name : ScopedName} {moduleName decl : String}
    (same : name.same (.ofTexts moduleName decl)) : name = .ofTexts moduleName decl := by
  obtain ⟨inModule, inDecl⟩ := (Bool.and_eq_true _ _ ▸ same : _ ∧ _)
  obtain ⟨m, n⟩ := name
  obtain rfl : m = _ := Value.eq_text_of_same inModule
  obtain rfl : n = _ := Value.eq_text_of_same inDecl
  rfl

namespace Entries

section

variable {κ α : Type} [KeyLike κ] {entries more : List (κ × α)}
  {key other : κ} {value : α}

theorem has_iff : has entries key ↔ ∃ entry ∈ entries, KeyLike.same entry.1 key := by
  rw [has, List.any_eq_true]

theorem put_of_absent (absent : has entries key = false) :
    put entries key value = entries ++ [(key, value)] := by
  induction entries with
  | nil => rfl
  | cons entry rest ih =>
    simp only [has, List.any_cons, Bool.or_eq_false_iff] at absent ih
    simp [put, absent.1, ih absent.2]

theorem find?_append : find? (entries ++ more) key = (find? entries key).or (find? more key) := by
  simp only [find?, List.find?_append, Option.map_or]

theorem find?_of_not_has (absent : has entries key = false) : find? entries key = none := by
  rwa [← find?_isSome, Option.isSome_eq_false_iff, Option.isNone_iff_eq_none] at absent

/-- No two entries have one key. -/
def Distinct (entries : List (κ × α)) : Prop :=
  entries.Pairwise fun a b => KeyLike.same a.1 b.1 = false

instance (entries : List (κ × α)) : Decidable (Distinct entries) :=
  inferInstanceAs (Decidable (entries.Pairwise fun a b => KeyLike.same a.1 b.1 = false))

theorem distinct_append_singleton (distinct : Distinct entries)
    (absent : has entries key = false) : Distinct (entries ++ [(key, value)]) := by
  refine List.pairwise_append.2
    ⟨distinct, List.pairwise_singleton _ _, fun entry member _ last => ?_⟩
  obtain rfl := List.mem_singleton.1 last
  simpa using List.any_eq_false.1 absent entry member

/-- Where no two entries have one key, what stands under a key is what is found there. -/
theorem find?_of_mem (distinct : Distinct entries) (member : (key, value) ∈ entries)
    (isKey : KeyLike.same key key) : find? entries key = some value := by
  induction entries with
  | nil => cases member
  | cons entry rest ih =>
    obtain ⟨apart, distinct⟩ := List.pairwise_cons.1 distinct
    obtain rfl | later := List.mem_cons.1 member
    · simp [find?, isKey]
    · have unlike : KeyLike.same entry.1 key = false := apart _ later
      rw [← ih distinct later]
      simp [find?, unlike]

/-- Tables with the same keys side by side find related values. -/
theorem find?_rel {β : Type} {r : α → β → Prop} {entries' : List (κ × β)}
    (related : List.Forall₂ (fun x y => x.1 = y.1 ∧ r x.2 y.2) entries entries') (key : κ) :
    Option.Rel r (find? entries key) (find? entries' key) := by
  induction related with
  | nil => exact .none
  | @cons x y _ _ first _ ih =>
    simp only [find?, List.find?_cons, first.1] at ih ⊢
    split
    · exact .some first.2
    · exact ih

section Map

variable {β : Type} (f : α → β)

theorem find?_map (entries : List (κ × α)) (key : κ) :
    find? (entries.map fun e => (e.1, f e.2)) key = (find? entries key).map f := by
  rw [find?, find?, List.find?_map, Option.map_map, Option.map_map]
  rfl

private theorem put_map (entries : List (κ × α)) (key : κ) (value : α) :
    put (entries.map fun e => (e.1, f e.2)) key (f value) =
      (put entries key value).map fun e => (e.1, f e.2) := by
  induction entries with
  | nil => rfl
  | cons entry rest ih =>
    rw [List.map_cons, put, put]
    split
    · rfl
    · rw [ih, List.map_cons]

theorem ofList_map (pairs : List (κ × α)) :
    ofList (pairs.map fun e => (e.1, f e.2)) = (ofList pairs).map fun e => (e.1, f e.2) := by
  have each (done : List (κ × α)) :
      (pairs.map fun e => (e.1, f e.2)).foldl (fun done entry => put done entry.1 entry.2)
          (done.map fun e => (e.1, f e.2)) =
        (pairs.foldl (fun done entry => put done entry.1 entry.2) done).map
          fun e => (e.1, f e.2) := by
    induction pairs generalizing done with
    | nil => rfl
    | cons pair rest ih => rw [List.map_cons, List.foldl_cons, List.foldl_cons, put_map, ih]
  exact each []

end Map

theorem keys_put : keys (put entries key value) =
    if has entries key then keys entries else keys entries ++ [key] := by
  induction entries with
  | nil => rfl
  | cons entry rest ih =>
    rw [put, has, List.any_cons, ← has]
    cases KeyLike.same entry.1 key with
    | true => rfl
    | false =>
      simp only [keys, List.map_cons, Bool.false_eq_true, ↓reduceIte, Bool.false_or] at ih ⊢
      rw [ih]
      split <;> rfl

theorem distinct_iff_keys :
    Distinct entries ↔ (keys entries).Pairwise fun a b => KeyLike.same a b = false := by
  rw [keys, List.pairwise_map, Distinct]

theorem distinct_put (distinct : Distinct entries) : Distinct (put entries key value) := by
  cases present : has entries key with
  | true => rwa [distinct_iff_keys, keys_put, present, if_pos rfl, ← distinct_iff_keys]
  | false => exact put_of_absent present ▸ distinct_append_singleton distinct present

/-- The table that pairs build has distinct keys, which are among those of the pairs. -/
theorem ofList_spec (pairs : List (κ × α)) :
    Distinct (ofList pairs) ∧ ∀ key ∈ keys (ofList pairs), key ∈ keys pairs := by
  have each : ∀ done : List (κ × α), Distinct done →
      Distinct (pairs.foldl (fun done entry => put done entry.1 entry.2) done) ∧
        ∀ key ∈ keys (pairs.foldl (fun done entry => put done entry.1 entry.2) done),
          key ∈ keys done ∨ key ∈ keys pairs := by
    induction pairs with
    | nil => exact fun done distinct => ⟨distinct, fun _ => .inl⟩
    | cons pair rest ih =>
      intro done distinct
      obtain ⟨kept, known⟩ := ih (put done pair.1 pair.2) (distinct_put distinct)
      refine ⟨kept, fun key member => ?_⟩
      obtain before | later := known key member
      · rw [keys_put] at before
        split at before
        · exact .inl before
        · refine (List.mem_append.1 before).imp_right fun last => ?_
          rw [List.mem_singleton.1 last]
          exact List.mem_cons_self
      · exact .inr (List.mem_cons_of_mem _ later)
  obtain ⟨distinct, known⟩ := each [] .nil
  exact ⟨distinct, fun key member => (known key member).resolve_left List.not_mem_nil⟩

/-- Pairs with distinct keys build the table that they are. -/
theorem ofList_of_distinct (distinct : Distinct entries) : ofList entries = entries := by
  have each : ∀ done : List (κ × α), Distinct (done ++ entries) →
      entries.foldl (fun done entry => put done entry.1 entry.2) done = done ++ entries := by
    clear distinct
    induction entries with
    | nil => simp
    | cons entry rest ih =>
      intro done distinct
      have absent : has done entry.1 = false := by
        refine List.any_eq_false.2 fun before member => ?_
        simp [(List.pairwise_append.1 distinct).2.2 before member entry List.mem_cons_self]
      rw [List.foldl_cons, put_of_absent absent, ih _ (by simpa using distinct),
        List.append_assoc, List.singleton_append]
  exact each [] distinct

end

variable {α : Type} {entries pairs : List (Value × α)} {key other : Value} {value : α}

theorem find?_congr (like : key.same other) : find? entries key = find? entries other := by
  simp only [find?, keyLike_same, Value.same_congr_right like]

/-- Where no two entries have one key, a value is found under a key exactly if it stands there. -/
theorem find?_eq_some (distinct : Distinct entries) :
    find? entries key = some value ↔ ∃ known, known.same key ∧ (known, value) ∈ entries := by
  constructor
  · exact mem_of_find?
  · rintro ⟨known, like, member⟩
    rw [← find?_congr like]
    exact find?_of_mem distinct member (Value.same_trans like (Value.same_symm like))

/-- The order of distinct keys plays no part. -/
theorem find?_perm {entries' : List (Value × α)} (distinct : Distinct entries)
    (perm : entries.Perm entries') : find? entries key = find? entries' key := by
  have distinct' : Distinct entries' :=
    (perm.pairwise_iff fun apart => by simpa [Value.same_comm] using apart).1 distinct
  refine Option.ext fun value => ?_
  rw [find?_eq_some distinct, find?_eq_some distinct']
  simp only [perm.mem_iff]

theorem find?_put : find? (put entries key value) other =
    if key.same other then some value else find? entries other := by
  induction entries with
  | nil => cases same : key.same other <;> simp [put, find?, same]
  | cons entry rest ih =>
    obtain ⟨known, old⟩ := entry
    rw [put]
    split
    · rename_i like
      have same : known.same other = key.same other := Value.same_congr_left like
      cases hit : key.same other <;> simp [find?, same, hit]
    · rename_i unlike
      cases hit : known.same other with
      | false =>
        have rest' : find? ((known, old) :: rest) other = find? rest other := by
          simp [find?, hit]
        rw [rest', ← ih]
        simp [find?, hit]
      | true =>
        have apart : key.same other = false := by
          by_contra like
          exact unlike (Value.same_trans hit (Value.same_symm (Bool.not_eq_false _ ▸ like)))
        simp [find?, hit, apart]

/-- Where pairs are put into a table one after another the last pair with a key counts. -/
theorem find?_foldl_put (done : List (Value × α)) :
    find? (pairs.foldl (fun done entry => put done entry.1 entry.2) done) key =
      (find? pairs.reverse key).or (find? done key) := by
  induction pairs generalizing done with
  | nil => rfl
  | cons pair rest ih =>
    rw [List.foldl_cons, ih, find?_put, List.reverse_cons, find?_append]
    cases find? rest.reverse key with
    | some _ => rfl
    | none => cases same : pair.1.same key <;> simp [find?, same]

/-- In the table that pairs build the last pair with a key counts. -/
theorem find?_ofList : find? (ofList pairs) key =
    (pairs.reverse.find? fun pair => pair.1.same key).map (·.2) := by
  rw [ofList, find?_foldl_put]
  exact Option.or_none

end Entries

end AdlTables
