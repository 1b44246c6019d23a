import AdlTables.Value

/-! # Entries in order

Tables that keep their entries in the order in which the keys first came. Keys are compared by an
equality of their own, so that a table of names works alike for texts and for the odder values that
a document may hold where a name belongs.
-/

namespace AdlTables

/-- Types whose values serve as keys. -/
class KeyLike (κ : Type) where
  /-- Whether two values are one key. -/
  same : κ → κ → Bool

instance : KeyLike Value := ⟨Value.same⟩

@[simp] theorem keyLike_same (a b : Value) : KeyLike.same a b = a.same b := rfl

instance : KeyLike String := ⟨fun a b => a == b⟩

namespace Entries

variable {κ α : Type} [KeyLike κ]

def find? (entries : List (κ × α)) (key : κ) : Option α :=
  (entries.find? fun entry => KeyLike.same entry.1 key).map (·.2)

def has (entries : List (κ × α)) (key : κ) : Bool :=
  entries.any fun entry => KeyLike.same entry.1 key

/-- Entries with a value put under a key: in place of the value already there, else at the end. -/
def put : List (κ × α) → κ → α → List (κ × α)
  | [], key, value => [(key, value)]
  | entry :: rest, key, value =>
    if KeyLike.same entry.1 key then (entry.1, value) :: rest else entry :: put rest key value

def erase (entries : List (κ × α)) (key : κ) : List (κ × α) :=
  entries.filter fun entry => !KeyLike.same entry.1 key

/-- The table that pairs build from left to right. -/
def ofList (pairs : List (κ × α)) : List (κ × α) :=
  pairs.foldl (fun done entry => put done entry.1 entry.2) []

def keys (entries : List (κ × α)) : List κ :=
  entries.map (·.1)

def values (entries : List (κ × α)) : List α :=
  entries.map (·.2)

theorem has_of_has_put {entries : List (κ × α)} {key other : κ} {value : α}
    (absent : has (put entries key value) other = false) : has entries other = false := by
  induction entries with
  | nil => rfl
  | cons entry rest ih =>
    rw [put] at absent
    split at absent
    · simpa [has] using absent
    · simp only [has, List.any_cons, Bool.or_eq_false_iff] at absent ih ⊢
      exact ⟨absent.1, ih absent.2⟩

theorem has_congr {entries : List (Value × α)} {a b : Value} (like : a.same b = true) :
    has entries a = has entries b := by
  simp only [has]
  congr 1
  funext entry
  exact Value.same_congr_right (c := entry.1) like

theorem has_put_self {entries : List (Value × α)} {key : Value} {value : α}
    (like : key.same key = true) : has (put entries key value) key = true := by
  induction entries with
  | nil => simpa [has, put] using like
  | cons entry rest ih =>
    rw [put]
    split
    · rename_i like
      exact List.any_eq_true.2 ⟨_, List.mem_cons_self, like⟩
    · rw [has, List.any_cons, ← has, ih, Bool.or_true]

end Entries

end AdlTables
