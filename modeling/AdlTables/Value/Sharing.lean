import AdlTables.Value

/-! # Shared values

A value in one place of a document for all places that name it. `bare` opens such a value: what is
inside it then stands for itself again, so a reader that asks only for `bare` values never meets an
`again`. Most values are not shared, and `bare` leaves them as they are.
-/

namespace AdlTables.Value

mutual

/-- A value in which a place stands for a whole value. -/
def tie (place : Nat) (whole : Value) : Value → Value
  | again p => if p = place then whole else again p
  | shared p v => if p = place then shared p v else shared p (tie place whole v)
  | list items => list (tieItems place whole items)
  | mapping entries => mapping (tieEntries place whole entries)
  | pair key value => pair (tie place whole key) (tie place whole value)
  | v => v

/-- Items in which a place stands for a whole value. -/
def tieItems (place : Nat) (whole : Value) : List Value → List Value
  | [] => []
  | v :: rest => tie place whole v :: tieItems place whole rest

/-- Entries in which a place stands for a whole value. -/
def tieEntries (place : Nat) (whole : Value) : List (Value × Value) → List (Value × Value)
  | [] => []
  | (key, v) :: rest => (key, tie place whole v) :: tieEntries place whole rest

end

/-- A value that is not shared itself. -/
def bare (v : Value) : Value :=
  match v with
  | shared place inner => tie place v inner
  | v => v

@[simp] theorem bare_text (s : String) : (text s).bare = text s := rfl

@[simp] theorem bare_list (items : List Value) : (list items).bare = list items := rfl

@[simp] theorem bare_mapping (entries : List (Value × Value)) :
    (mapping entries).bare = mapping entries := rfl

mutual

/-- A value with the one in a place changed, wherever it is. -/
def changeAt (place : Nat) (change : Value → Value) : Value → Value
  | shared p v =>
    let v := changeAt place change v
    shared p (if p = place then change v else v)
  | list items => list (changeItems place change items)
  | mapping entries => mapping (changeEntries place change entries)
  | pair key value => pair (changeAt place change key) (changeAt place change value)
  | v => v

def changeItems (place : Nat) (change : Value → Value) : List Value → List Value
  | [] => []
  | v :: rest => changeAt place change v :: changeItems place change rest

def changeEntries (place : Nat) (change : Value → Value) :
    List (Value × Value) → List (Value × Value)
  | [] => []
  | (key, v) :: rest => (key, changeAt place change v) :: changeEntries place change rest

end

end AdlTables.Value
