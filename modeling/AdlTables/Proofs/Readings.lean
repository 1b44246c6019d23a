import AdlTables.Loading

/-! # What a reading changes

A module that is read once more is the same but for the objects in it that are no numbers. So most
names last: a text is that text in every reading. What can be said in a message is so in every
reading too.
-/

namespace AdlTables

namespace Value

variable {r : Reading} {v w : Value}

/-- Whether every reading gives a value as it is. -/
def Lasts (v : Value) : Prop :=
  ∀ r, v.inReading r = v

theorem lasts_text (s : String) : (text s).Lasts :=
  fun r => inReading_text r s

theorem lasts_of_text? (isText : v.text?.isSome) : v.Lasts := by
  cases v with
  | text s => exact lasts_text s
  | _ => cases isText

mutual

@[simp] theorem isSayable_inReading (r : Reading) :
    ∀ v : Value, (v.inReading r).isSayable = v.isSayable
  | list items | set items => by
    simpa only [inReading, isSayable] using areSayable_inReading r items
  | mapping entries => by
    simpa only [inReading, isSayable] using areEntriesSayable_inReading r entries
  | pair key value => by
    simp only [inReading, isSayable, isSayable_inReading r key, isSayable_inReading r value]
  | shared _ v => by
    simpa only [inReading, isSayable] using isSayable_inReading r v
  | null | bool _ | int _ | float _ | nan _ | text _ | bytes _ | time _ | again _ => by
    simp only [inReading, isSayable]

private theorem areSayable_inReading (r : Reading) :
    ∀ items : List Value, areSayable (itemsInReading r items) = areSayable items
  | [] => rfl
  | v :: rest => by
    simp only [itemsInReading, areSayable, isSayable_inReading r v, areSayable_inReading r rest]

private theorem areEntriesSayable_inReading (r : Reading) : ∀ entries : List (Value × Value),
    areEntriesSayable (entriesInReading r entries) = areEntriesSayable entries
  | [] => rfl
  | (key, v) :: rest => by
    simp only [entriesInReading, areEntriesSayable, isSayable_inReading r key,
      isSayable_inReading r v, areEntriesSayable_inReading r rest]

end

end Value

namespace Module

@[simp] theorem name_inReading (r : Reading) (m : Module) :
    (m.inReading r).name = m.name.inReading r := rfl

@[simp] theorem imports_inReading (r : Reading) (m : Module) :
    (m.inReading r).imports = m.imports.map (Value.inReading r) := rfl

end Module

end AdlTables
