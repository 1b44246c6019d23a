import AdlTables.Decimal.Binary64
import AdlTables.Nan
import AdlTables.Timestamp

/-! # Document values

The values a JSON or YAML document is made of. Mappings keep the order of their entries, and their
keys may be of any kind that has a `Key`: numbers that are equal are one key, whether they are
written as an integer, as a truth value or with a point, and so are moments that are one instant,
while lists, mappings and sets are never keys. What is no number is one key only with itself.

A YAML document may name one list or mapping in several places, even inside itself. Where this
matters the value is `shared` and has a number, and `again` stands for it inside itself.
-/

namespace AdlTables

/-- A value read from a document. -/
inductive Value where
  | null
  | bool (b : Bool)
  | int (i : Int)
  | float (x : Binary64)
  /-- What stands where a number is none. -/
  | nan (x : Nan)
  | text (s : String)
  | bytes (bs : List UInt8)
  | time (t : Timestamp)
  | list (items : List Value)
  | mapping (entries : List (Value × Value))
  | set (items : List Value)
  /-- A key with its value, as a list of pairs has them. -/
  | pair (key value : Value)
  /-- A value that is in one place of the document for all places that name it. -/
  | shared (place : Nat) (v : Value)
  /-- The value around this one that is in the given place. -/
  | again (place : Nat)
deriving Inhabited, Repr

/-- What a value is as a key of a mapping. -/
inductive Key where
  | null
  | int (i : Int)
  | float (x : Binary64)
  | nan (x : Nan)
  | text (s : String)
  | bytes (bs : List UInt8)
  | time (form : TimeForm) (position : Int)
  | pair (key value : Key)
deriving DecidableEq, Repr

namespace Value

/-- The key that a value stands for; lists, mappings and sets stand for none. -/
def key? : Value → Option Key
  | null => some .null
  | bool b => some (.int (if b then 1 else 0))
  | int i => some (.int i)
  | float x => match x.toInt? with
    | some i => some (.int i)
    | none => some (.float x)
  | nan x => some (.nan x)
  | text s => some (.text s)
  | bytes bs => some (.bytes bs)
  | time t => some (.time t.form t.position)
  | pair k v => do return .pair (← k.key?) (← v.key?)
  | list _ => none
  | mapping _ => none
  | set _ => none
  | shared _ _ => none
  | again _ => none

/-- Equality as keys; a value that is no key equals nothing. -/
def same (a b : Value) : Bool :=
  match a, b with
  | text s, text t => s == t
  | a, b => match a.key?, b.key? with
    | some x, some y => x == y
    | _, _ => false

@[simp] theorem key?_text (s : String) : (text s).key? = some (.text s) := rfl

@[simp] theorem same_text (s t : String) : (text s).same (text t) = (s == t) := rfl

theorem same_eq_key (a b : Value) : a.same b = match a.key?, b.key? with
    | some x, some y => x == y
    | _, _ => false := by
  unfold same
  split
  · rename_i s t
    by_cases h : s = t <;> simp [h, BEq.beq]
  · rfl

theorem same_iff {a b : Value} : a.same b = true ↔ ∃ k, a.key? = some k ∧ b.key? = some k := by
  rw [same_eq_key]
  constructor
  · intro like
    split at like
    · rename_i x y ha hb
      exact ⟨y, by rw [ha, beq_iff_eq.1 like], hb⟩
    · exact absurd like Bool.false_ne_true
  · rintro ⟨k, ha, hb⟩
    rw [ha, hb]
    exact beq_self_eq_true k

theorem same_self {a : Value} (isKey : a.key? ≠ none) : a.same a = true := by
  obtain ⟨k, hk⟩ := Option.ne_none_iff_exists'.1 isKey
  exact same_iff.2 ⟨k, hk, hk⟩

theorem same_right {a b : Value} (like : a.same b = true) : b.same b = true := by
  obtain ⟨k, _, hb⟩ := same_iff.1 like
  exact same_iff.2 ⟨k, hb, hb⟩

theorem same_congr_right {a b c : Value} (like : a.same b = true) : c.same a = c.same b := by
  obtain ⟨k, ha, hb⟩ := same_iff.1 like
  simp only [same_eq_key, ha, hb]

def isText (v : Value) (s : String) : Bool :=
  match v with
  | text t => t == s
  | _ => false

def text? : Value → Option String
  | text s => some s
  | _ => none

/-- Values that count as absent: null, false, zero, and whatever is empty. -/
def isEmpty : Value → Bool
  | null => true
  | bool b => !b
  | int i => i == 0
  | float x => x.isZero
  | nan _ => false
  | text s => s == ""
  | bytes bs => bs.isEmpty
  | time _ => false
  | list items => items.isEmpty
  | mapping entries => entries.isEmpty
  | set items => items.isEmpty
  | pair _ _ => false
  | shared _ v => v.isEmpty
  | again _ => false

def kindName : Value → String
  | null => "NoneType"
  | bool _ => "bool"
  | int _ => "int"
  | float _ => "float"
  | nan _ => "float"
  | text _ => "str"
  | bytes _ => "bytes"
  | time t => t.kindName
  | list _ => "list"
  | mapping _ => "dict"
  | set _ => "set"
  | pair _ _ => "tuple"
  | shared _ v => v.kindName
  | again _ => "object"

/-- The value behind a text key of a mapping's entries. -/
def find? (entries : List (Value × Value)) (key : String) : Option Value :=
  (entries.find? fun entry => entry.1.isText key).map (·.2)

mutual

/-- The number of parts of a value. -/
def size : Value → Nat
  | list items => 1 + sizeItems items
  | mapping entries => 1 + sizeEntries entries
  | set items => 1 + sizeItems items
  | pair key value => 1 + size key + size value
  | shared _ v => 1 + size v
  | _ => 1

/-- The number of parts of several values. -/
def sizeItems : List Value → Nat
  | [] => 0
  | v :: rest => size v + sizeItems rest

/-- The number of parts of keys and values. -/
def sizeEntries : List (Value × Value) → Nat
  | [] => 0
  | (key, v) :: rest => size key + size v + sizeEntries rest

end

end Value

end AdlTables
