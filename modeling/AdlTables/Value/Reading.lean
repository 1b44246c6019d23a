import AdlTables.Value

/-! # Values of a reading

What a reading makes of a value: the objects in it that are no numbers are new ones, and all else is
as it was. Two keys are one in a reading exactly if they are one before it.
-/

namespace AdlTables

def Key.inReading (r : Reading) : Key → Key
  | nan x => nan (x.inReading r)
  | pair k v => pair (k.inReading r) (v.inReading r)
  | k => k

theorem Key.inReading_inj {r : Reading} {k k' : Key} (same : k.inReading r = k'.inReading r) :
    k = k' := by
  induction k generalizing k' with
  | nan x =>
    cases k' <;> simp only [inReading, reduceCtorEq, nan.injEq] at same
    rw [Nan.inReading_inj same]
  | pair k v ih ih' =>
    cases k' <;> simp only [inReading, reduceCtorEq, pair.injEq] at same
    rw [ih same.1, ih' same.2]
  | _ => cases k' <;> simp_all [inReading]

namespace Value

mutual

def inReading (r : Reading) : Value → Value
  | nan x => nan (x.inReading r)
  | list items => list (itemsInReading r items)
  | mapping entries => mapping (entriesInReading r entries)
  | set items => set (itemsInReading r items)
  | pair key value => pair (inReading r key) (inReading r value)
  | shared place v => shared place (inReading r v)
  | v => v

def itemsInReading (r : Reading) : List Value → List Value
  | [] => []
  | v :: rest => inReading r v :: itemsInReading r rest

def entriesInReading (r : Reading) : List (Value × Value) → List (Value × Value)
  | [] => []
  | (key, v) :: rest => (inReading r key, inReading r v) :: entriesInReading r rest

end

variable {r : Reading} {v a b : Value}

@[simp] theorem inReading_text (r : Reading) (s : String) : (text s).inReading r = text s := by
  simp [inReading]

theorem key?_inReading (r : Reading) (v : Value) :
    (v.inReading r).key? = v.key?.map (Key.inReading r) := by
  induction v using key?.induct with
  | case4 x i whole => simp [inReading, key?, whole, Key.inReading]
  | case5 x broken => simp [inReading, key?, broken, Key.inReading]
  | case10 key value ih ih' =>
    rw [inReading, key?, key?, ih, ih']
    cases key.key? <;> cases value.key? <;> rfl
  | _ => simp_all [inReading, key?, Key.inReading]

@[simp] theorem isSome_key?_inReading (r : Reading) (v : Value) :
    (v.inReading r).key?.isSome = v.key?.isSome := by
  rw [key?_inReading, Option.isSome_map]

/-- A reading makes one key of two values exactly if they are one before. -/
@[simp] theorem same_inReading (r : Reading) (a b : Value) :
    (a.inReading r).same (b.inReading r) = a.same b := by
  rw [Bool.eq_iff_iff, same_iff, same_iff, key?_inReading, key?_inReading]
  constructor
  · rintro ⟨k, ha, hb⟩
    obtain ⟨x, hx, rfl⟩ := Option.map_eq_some_iff.1 ha
    obtain ⟨y, hy, like⟩ := Option.map_eq_some_iff.1 hb
    exact ⟨x, hx, Key.inReading_inj like ▸ hy⟩
  · rintro ⟨k, ha, hb⟩
    exact ⟨k.inReading r, by rw [ha]; rfl, by rw [hb]; rfl⟩

@[simp] theorem text?_inReading (r : Reading) (v : Value) : (v.inReading r).text? = v.text? := by
  cases v <;> simp [inReading, text?]

end Value

end AdlTables
