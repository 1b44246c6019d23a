import AdlTables.Document
import AdlTables.Proofs.Breakdown
import AdlTables.Proofs.Declared
import AdlTables.Proofs.Entries

/-! # Values of JSON

The values that a JSON text can denote. Readers come to values of JSON in them only, and types
inside types end there. A text never denotes a number that is too long to be written, which other
formats have ways to spell.
-/

namespace AdlTables

namespace Value

/-- The values that JSON has: the keys of objects are texts, and nothing is shared. -/
inductive IsJson : Value → Prop
  | null : IsJson .null
  | bool (b : Bool) : IsJson (.bool b)
  | int (i : Int) : IsJson (.int i)
  | float (x : Binary64) : IsJson (.float x)
  | nan (x : Nan) : IsJson (.nan x)
  | text (s : String) : IsJson (.text s)
  | list {items : List Value} : (∀ v ∈ items, IsJson v) → IsJson (.list items)
  | mapping {entries : List (Value × Value)} : (∀ entry ∈ entries, ∃ s, entry.1 = .text s) →
    (∀ entry ∈ entries, IsJson entry.2) → IsJson (.mapping entries)

variable {v w whole : Value} {n : Nat}

private theorem areSayable_iff {items : List Value} :
    areSayable items ↔ ∀ v ∈ items, v.isSayable := by
  induction items with
  | nil => simp [areSayable]
  | cons v rest ih => simp [areSayable, ih]

private theorem areEntriesSayable_iff {entries : List (Value × Value)} :
    areEntriesSayable entries ↔ ∀ entry ∈ entries, entry.1.isSayable ∧ entry.2.isSayable := by
  induction entries with
  | nil => simp [areEntriesSayable]
  | cons entry rest ih => simp [areEntriesSayable, ih, and_assoc]

namespace IsJson

theorem bare_eq (json : v.IsJson) : v.bare = v := by
  cases json <;> rfl

theorem of_mem_inside (json : v.IsJson) (member : w ∈ v.inside) : w.IsJson := by
  cases json with
  | list each => exact each w member
  | mapping _ each =>
    obtain ⟨entry, inEntries, rfl⟩ := List.mem_map.1 member
    exact each entry inEntries
  | _ => cases member

/-- The parts that a reader comes to in a value of JSON are of JSON, and they can be written if the
value can. -/
theorem of_part (json : whole.IsJson) (part : whole.Part v) :
    v.IsJson ∧ (whole.isSayable → v.isSayable) := by
  induction part with
  | whole => exact ⟨json, id⟩
  | @under v key w entries _ isMapping member ih =>
    obtain ⟨vJson, sayable⟩ := ih
    obtain rfl := vJson.bare_eq.symm.trans isMapping
    refine ⟨vJson.of_mem_inside (List.mem_map_of_mem (f := (·.2)) member), fun all => ?_⟩
    exact (areEntriesSayable_iff.1 (sayable all) _ member).2
  | @item v w items _ given member ih =>
    obtain ⟨vJson, sayable⟩ := ih
    rw [items?, vJson.bare_eq] at given
    cases vJson with
    | text s =>
      obtain rfl := Option.some.inj given
      obtain ⟨c, -, rfl⟩ := List.mem_map.1 member
      exact ⟨.text _, fun _ => rfl⟩
    | list each =>
      obtain rfl := Option.some.inj given
      exact ⟨each w member, fun all => areSayable_iff.1 (sayable all) w member⟩
    | mapping keys _ =>
      obtain rfl := Option.some.inj given
      obtain ⟨entry, inEntries, rfl⟩ := List.mem_map.1 member
      obtain ⟨s, isText⟩ := keys entry inEntries
      rw [isText]
      exact ⟨.text s, fun _ => rfl⟩
    | _ => cases given

/-- Types inside types come to an end in a value of JSON. -/
theorem endsWithin (json : v.IsJson) (fits : v.size ≤ n) : v.EndsWithin TypeExpr.inner n := by
  induction n generalizing v with
  | zero => exact absurd v.size_pos (by omega)
  | succ n ih =>
    refine .step fun c member => ?_
    rw [json.bare_eq] at member
    have isInside := TypeExpr.inner_subset_inside v member
    have smaller := size_lt_of_mem_inside isInside
    exact ih (json.of_mem_inside isInside) (by omega)

end IsJson

end Value

/-- Digits spell less than the power of ten by their number. -/
theorem Text.natural_lt {digits : List Char} (isDigits : ∀ c ∈ digits, isDigit c) :
    natural digits < Decimal.tenTo digits.length := by
  have each : ∀ n, digits.foldl (fun n c => n * 10 + (c.toNat - '0'.toNat)) n <
      (n + 1) * Decimal.tenTo digits.length := by
    induction digits with
    | nil => simp [Decimal.tenTo]
    | cons c rest ih =>
      intro n
      have small : c.toNat - '0'.toNat ≤ 9 := by
        have isDigit := isDigits c List.mem_cons_self
        rw [Text.isDigit, Bool.and_eq_true, decide_eq_true_eq, decide_eq_true_eq] at isDigit
        have upper : c.toNat ≤ '9'.toNat := isDigit.2
        have nine : '9'.toNat = '0'.toNat + 9 := rfl
        omega
      have later := ih (fun c' member => isDigits c' (List.mem_cons_of_mem _ member))
        (n * 10 + (c.toNat - '0'.toNat))
      have power : Decimal.tenTo (c :: rest).length = 10 * Decimal.tenTo rest.length :=
        Nat.mul_comm _ 10
      calc
        _ < (n * 10 + (c.toNat - '0'.toNat) + 1) * Decimal.tenTo rest.length := later
        _ ≤ ((n + 1) * 10) * Decimal.tenTo rest.length := Nat.mul_le_mul_right _ (by omega)
        _ = (n + 1) * Decimal.tenTo (c :: rest).length := by rw [power, Nat.mul_assoc]
  simpa [natural] using each 0

private theorem Decimal.tenTo_le {m n : Nat} (le : m ≤ n) : tenTo m ≤ tenTo n :=
  Nat.pow_le_pow_right (by decide) le

namespace Json

variable {v : Value} {cs rest : List Char}

/-- A value of JSON in which every number can be written. -/
def Fine (v : Value) : Prop :=
  v.IsJson ∧ v.isSayable

def FineEntry (entry : Value × Value) : Prop :=
  (∃ s, entry.1 = .text s) ∧ Fine entry.2

/-- A whole number is fine if it is spelled by as many digits as there may be. -/
theorem fine_int {digits : List Char} (isDigits : ∀ c ∈ digits, Text.isDigit c)
    (few : digits.length ≤ Text.mostDigits) {i : Int} (spelled : i.natAbs = Text.natural digits) :
    Fine (.int i) := by
  have small : i.natAbs < Value.numberLimit :=
    calc
      i.natAbs = Text.natural digits := spelled
      _ < Decimal.tenTo digits.length := Text.natural_lt isDigits
      _ ≤ Decimal.tenTo Text.mostDigits := Decimal.tenTo_le few
  exact ⟨.int i, by simpa [Value.isSayable] using small⟩

private theorem fine_number {negative : Bool} (read : number negative cs = .ok (v, rest)) :
    Fine v := by
  unfold number at read
  extract_lets whole tail spelled at read
  have isDigits : ∀ c ∈ whole, Text.isDigit c := by
    intro c member
    simp only [whole] at member
    split at member
    · obtain rfl := List.mem_singleton.1 member
      rfl
    · exact List.all_eq_true.1 List.all_takeWhile c member
  clear_value whole tail
  split at read
  · cases read
  -- a fraction or a power makes the number one with a point, which can always be written
  split at read
  split at read
  split at read
  · split at read
    · cases read
    · rename_i notMore
      obtain ⟨rfl, -⟩ := Prod.mk.inj (Except.ok.inj read)
      exact fine_int isDigits (by omega) (by cases negative <;> simp [spelled])
  · obtain ⟨rfl, -⟩ := Prod.mk.inj (Except.ok.inj read)
    exact ⟨.float _, rfl⟩

private theorem fine_words {word : String} (member : (word, v) ∈ words) : Fine v := by
  have each : ∀ entry ∈ words, (∃ b, entry.2 = .bool b) ∨ (∃ x, entry.2 = .float x) ∨
      (∃ x, entry.2 = .nan x) ∨ entry.2 = .null := by
    simp [words]
  rcases each _ member with ⟨b, rfl⟩ | ⟨x, rfl⟩ | ⟨x, rfl⟩ | rfl
  · exact ⟨.bool b, rfl⟩
  · exact ⟨.float x, rfl⟩
  · exact ⟨.nan x, rfl⟩
  · exact ⟨.null, rfl⟩

private theorem fine_plain (read : plain cs = .ok (v, rest)) : Fine v := by
  unfold plain at read
  split at read
  · rename_i found isWord
    obtain rfl := Except.ok.inj read
    obtain ⟨⟨word, w⟩, member, after⟩ := List.exists_of_findSome?_eq_some isWord
    obtain ⟨_, _, same⟩ := Option.map_eq_some_iff.1 after
    obtain ⟨rfl, -⟩ := Prod.mk.inj same
    exact fine_words member
  · split at read
    · exact fine_number read
    · exact fine_number read

theorem Fine.list {items : List Value} (each : ∀ w ∈ items, Fine w) : Fine (.list items) :=
  ⟨.list fun w member => (each w member).1,
    Value.areSayable_iff.2 fun w member => (each w member).2⟩

theorem Fine.mapping {entries : List (Value × Value)} (each : ∀ entry ∈ entries, FineEntry entry) :
    Fine (.mapping entries) := by
  refine ⟨.mapping (fun e member => (each e member).1) fun e member => (each e member).2.1,
    Value.areEntriesSayable_iff.2 fun e member => ⟨?_, (each e member).2.2⟩⟩
  obtain ⟨s, isText⟩ := (each e member).1
  rw [isText]
  rfl

private theorem fine_ofList {done : List (Value × Value)} (each : ∀ e ∈ done, FineEntry e) :
    Fine (.mapping (Entries.ofList done.reverse)) := by
  refine .mapping fun entry member => ⟨?_, ?_⟩
  · have key := (Entries.ofList_spec done.reverse).2 entry.1 (List.mem_map_of_mem member)
    obtain ⟨e, among, same⟩ := List.mem_map.1 key
    exact same ▸ (each e (List.mem_reverse.1 among)).1
  · have value := Entries.mem_values_ofList (List.mem_map_of_mem member)
    obtain ⟨e, among, same⟩ := List.mem_map.1 value
    exact same ▸ (each e (List.mem_reverse.1 among)).2

/-- What is read with some fuel is fine: values, and lists and objects behind parts that are. -/
structure FineWithin (fuel : Nat) : Prop where
  value {room : Nat} {cs rest : List Char} {v : Value} :
    Json.value fuel room cs = .ok (v, rest) → Fine v
  items {room : Nat} {done : List Value} {cs rest : List Char} {v : Value} :
    (∀ w ∈ done, Fine w) → Json.items fuel room done cs = .ok (v, rest) → Fine v
  members {room : Nat} {done : List (Value × Value)} {cs rest : List Char} {v : Value} :
    (∀ e ∈ done, FineEntry e) → Json.members fuel room done cs = .ok (v, rest) → Fine v

namespace FineWithin

variable {fuel room : Nat} (within : FineWithin fuel)

include within

private theorem value_succ (read : Json.value (fuel + 1) room cs = .ok (v, rest)) : Fine v := by
  unfold Json.value at read
  split at read
  · obtain ⟨_, _, same⟩ := Outcome.bind_eq_ok.1 read
    obtain ⟨rfl, -⟩ := Prod.mk.inj (Except.ok.inj same)
    exact ⟨.text _, rfl⟩
  · split at read
    · cases read
    split at read
    · obtain ⟨rfl, -⟩ := Prod.mk.inj (Except.ok.inj read)
      exact .list (by simp)
    · exact within.items (by simp) read
  · split at read
    · cases read
    split at read
    · obtain ⟨rfl, -⟩ := Prod.mk.inj (Except.ok.inj read)
      exact .mapping (by simp)
    · exact within.members (by simp) read
  · exact fine_plain read

private theorem items_succ {done : List Value} (before : ∀ w ∈ done, Fine w)
    (read : Json.items (fuel + 1) room done cs = .ok (v, rest)) : Fine v := by
  unfold Json.items at read
  obtain ⟨⟨w, _⟩, first, read⟩ := Outcome.bind_eq_ok.1 read
  have each : ∀ x ∈ w :: done, Fine x := List.forall_mem_cons.2 ⟨within.value first, before⟩
  dsimp only at read
  split at read
  · exact within.items each read
  · obtain ⟨rfl, -⟩ := Prod.mk.inj (Except.ok.inj read)
    exact .list fun x member => each x (List.mem_reverse.1 member)
  · cases read

private theorem members_succ {done : List (Value × Value)} (before : ∀ e ∈ done, FineEntry e)
    (read : Json.members (fuel + 1) room done cs = .ok (v, rest)) : Fine v := by
  unfold Json.members at read
  split at read
  · obtain ⟨⟨key, _⟩, _, read⟩ := Outcome.bind_eq_ok.1 read
    dsimp only at read
    split at read
    · obtain ⟨⟨w, _⟩, under, read⟩ := Outcome.bind_eq_ok.1 read
      have each : ∀ e ∈ (.text key, w) :: done, FineEntry e :=
        List.forall_mem_cons.2 ⟨⟨⟨key, rfl⟩, within.value under⟩, before⟩
      dsimp only at read
      split at read
      · exact within.members each read
      · obtain ⟨rfl, -⟩ := Prod.mk.inj (Except.ok.inj read)
        exact fine_ofList each
      · cases read
    · cases read
  · cases read

end FineWithin

private theorem fineWithin (fuel : Nat) : FineWithin fuel := by
  induction fuel with
  | zero => exact ⟨nofun, nofun, nofun⟩
  | succ fuel ih => exact ⟨ih.value_succ, ih.items_succ, ih.members_succ⟩

/-- A text of JSON denotes a value of JSON in which every number can be written. -/
theorem fine_of_read {s : String} (denoted : read s = .ok v) : Fine v := by
  rw [read] at denoted
  obtain ⟨⟨w, rest⟩, valued, same⟩ := Outcome.bind_eq_ok.1 denoted
  dsimp only at same
  split at same
  · obtain rfl := Except.ok.inj same
    exact (fineWithin _).value valued
  · cases same

end Json

end AdlTables
