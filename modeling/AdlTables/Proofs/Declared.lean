import AdlTables.Proofs.TypeExpr
import AdlTables.Expansion

/-! # What a graph declares

A name is resolved to a declaration that the graph holds, so what holds of all declarations of a
graph holds of the one that is found. The types bound to the parameters of a declaration are
likewise among those that were given, and none is missing where there are as many as parameters.
-/

namespace AdlTables

namespace Entries

section

variable {κ α : Type} [KeyLike κ] {entries pairs : List (κ × α)} {key : κ} {value new : α}

/-- What is found under a key stands there under one that is the same. -/
theorem mem_of_find? (found : find? entries key = some value) :
    ∃ known, KeyLike.same known key ∧ (known, value) ∈ entries := by
  obtain ⟨⟨known, _⟩, hit, rfl⟩ := Option.map_eq_some_iff.1 found
  exact ⟨known, by simpa using List.find?_some hit, List.mem_of_find?_eq_some hit⟩

theorem find?_isSome : (find? entries key).isSome = has entries key := by
  rw [Bool.eq_iff_iff, find?, Option.isSome_map, List.find?_isSome, has, List.any_eq_true]

private theorem mem_values_put (member : value ∈ values (put entries key new)) :
    value = new ∨ value ∈ values entries := by
  induction entries with
  | nil => simpa [put, values] using member
  | cons entry rest ih =>
    rw [put] at member
    split at member
    · exact (List.mem_cons.1 member).imp_right (List.mem_cons_of_mem _)
    · obtain rfl | later := List.mem_cons.1 member
      · exact .inr List.mem_cons_self
      · exact (ih later).imp_right (List.mem_cons_of_mem _)

/-- The values of a table are among those of the pairs that build it. -/
theorem mem_values_ofList (member : value ∈ values (ofList pairs)) : value ∈ values pairs := by
  have each : ∀ done : List (κ × α),
      value ∈ values (pairs.foldl (fun done entry => put done entry.1 entry.2) done) →
        value ∈ values pairs ∨ value ∈ values done := by
    clear member
    induction pairs with
    | nil => exact fun done member => .inr member
    | cons pair rest ih =>
      intro done member
      obtain later | earlier := ih (put done pair.1 pair.2) member
      · exact .inl (List.mem_cons_of_mem _ later)
      · obtain rfl | before := mem_values_put earlier
        · exact .inl List.mem_cons_self
        · exact .inr before
  exact (each [] member).resolve_right List.not_mem_nil

end

variable {α : Type} {pairs : List (Value × α)} {key : Value}

/-- A table has every key of the pairs that build it. -/
theorem has_ofList (member : key ∈ keys pairs) (isKey : key.same key) : has (ofList pairs) key := by
  have each : ∀ done : List (Value × α), key ∈ keys pairs ∨ has done key →
      has (pairs.foldl (fun done entry => put done entry.1 entry.2) done) key := by
    clear member
    induction pairs with
    | nil => simp [keys]
    | cons pair rest ih =>
      intro done present
      refine ih _ ?_
      obtain member | before := present
      · obtain rfl | later := List.mem_cons.1 member
        · exact .inr (has_put_self isKey)
        · exact .inl later
      · refine .inr (Bool.not_eq_false _ ▸ fun absent => ?_)
        simp [has_of_has_put absent] at before
  exact each [] (.inl member)

end Entries

namespace TypeExpr

variable {params : List Value} {args : List TypeExpr}

/-- The type bound to a parameter is one of the arguments. -/
theorem mem_of_bound? {head : TypeRef} {t : TypeExpr}
    (bound : bound? (Entries.ofList (params.zip args)) head = some t) : t ∈ args := by
  cases head with
  | primitive _ | reference _ => cases bound
  | parameter name =>
    obtain ⟨known, _, member⟩ := Entries.mem_of_find? bound
    have value := Entries.mem_values_ofList (List.mem_map_of_mem (f := (·.2)) member)
    obtain ⟨pair, among, rfl⟩ := List.mem_map.1 value
    exact (List.of_mem_zip among).2

/-- A parameter is bound if there are as many arguments as parameters. -/
theorem bound?_parameter {name : Value} (declared : params.any (·.same name))
    (arity : params.length = args.length) :
    (bound? (Entries.ofList (params.zip args)) (.parameter name)).isSome := by
  obtain ⟨known, member, same⟩ := List.any_eq_true.1 declared
  obtain ⟨key, isKey, _⟩ := Value.same_iff.1 same
  rw [bound?, Entries.find?_isSome, ← Entries.has_congr same]
  refine Entries.has_ofList ?_ (Value.same_iff.2 ⟨key, isKey, isKey⟩)
  rwa [Entries.keys, List.map_fst_zip (Nat.le_of_eq arity)]

theorem isOpenAll_iff {b : Bindings} {ts : List TypeExpr} :
    isOpenAll b ts ↔ ∀ t ∈ ts, t.isOpen b := by
  induction ts with
  | nil => simp [isOpenAll]
  | cons t rest ih => simp [isOpenAll, ih]

theorem HasTextNames.isOpen {t : TypeExpr} (texts : t.HasTextNames) (b : Bindings) :
    t.isOpen b := by
  induction t with
  | node head args ih =>
    rw [HasTextNames, everywhere_node] at texts
    have inner := isOpenAll_iff.2 fun t member => ih t member (texts.2 t member)
    cases head with
    | primitive _ | reference _ => exact inner
    | parameter name =>
      obtain ⟨s, rfl⟩ := Value.text?_isSome.1 texts.1
      rw [TypeExpr.isOpen, inner]
      simp

end TypeExpr

namespace Graph

variable {g : Graph}

def Holds (g : Graph) (d : Declaration) : Prop :=
  ∃ entry ∈ g.modules, ∃ e ∈ entry.2.decls, e.2 = d

def Every (g : Graph) (p : Declaration → Prop) : Prop :=
  ∀ entry ∈ g.modules, ∀ e ∈ entry.2.decls, p e.2

instance {p : Declaration → Prop} [DecidablePred p] (g : Graph) : Decidable (g.Every p) :=
  inferInstanceAs (Decidable (∀ entry ∈ g.modules, ∀ e ∈ entry.2.decls, p e.2))

/-- What holds of every declaration holds of the one that is found under a name. -/
theorem Every.resolve {p : Declaration → Prop} {name : ScopedName} {d : ScopedDecl}
    (every : g.Every p) (found : g.resolve name = .ok d) : p d.decl := by
  rw [Graph.resolve] at found
  split at found
  · cases found
  split at found
  · cases found
  rename_i m loaded
  split at found
  · cases found
  split at found
  · cases found
  rename_i decl declared
  obtain rfl := Except.ok.inj found
  obtain ⟨_, _, loaded⟩ := Entries.mem_of_find? loaded
  obtain ⟨_, _, declared⟩ := Entries.mem_of_find? declared
  exact every _ loaded _ declared

theorem holds_of_resolve {name : ScopedName} {d : ScopedDecl} (found : g.resolve name = .ok d) :
    g.Holds d.decl :=
  have every : g.Every g.Holds := fun entry inGraph e inModule => ⟨entry, inGraph, e, inModule, rfl⟩
  every.resolve found

end Graph

end AdlTables
