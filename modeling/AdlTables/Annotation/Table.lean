import AdlTables.Value.Access
import AdlTables.Text.Blank

/-! # Table annotations

The payload that makes a struct a table. Every field may be left out. Each goes by a name in camel
case or by one with underscores, the former winning where both are given, and all that is wrong with
a payload is said at once, field by field.
-/

namespace AdlTables

/-- How a struct is laid out as a table. -/
structure TableRequest where
  tableName : Option String
  withIdPrimaryKey : Bool
  withPrimaryKey : List String
  indexes : List (List String)
  uniquenessConstraints : List (List String)
  extraSql : List String
deriving DecidableEq, Repr, Inhabited

namespace TableRequest

/-- The annotation that says nothing. -/
def plain : TableRequest where
  tableName := none
  withIdPrimaryKey := false
  withPrimaryKey := []
  indexes := []
  uniquenessConstraints := []
  extraSql := []

/-- What a check came to: a result, or everything that is wrong. -/
abbrev Checked (α : Type) := Except (List Complaint) α

/-- What is wrong according to a check. -/
def complaints {α : Type} : Checked α → List Complaint
  | .ok _ => []
  | .error cs => cs

/-- The results of checks, or everything that is wrong with any of them. -/
def checkAll {α : Type} : List (Checked α) → Checked (List α)
  | [] => .ok []
  | c :: rest => match c, checkAll rest with
    | .ok a, .ok as => .ok (a :: as)
    | c, cs => .error (complaints c ++ complaints cs)

/-- A check that fails with one complaint. -/
def refuse {α : Type} (place : List String) (text : String) : Checked α :=
  .error [⟨place, text⟩]

def checkText (place : List String) (v : Value) : Checked String :=
  match v.readText with
  | .ok s => .ok s
  | .error wrong => refuse place wrong

def checkOptionalText (place : List String) : Value → Checked (Option String)
  | .null => .ok none
  | v => (checkText place v).map some

/-- A list whose items pass a check, each at its own place. -/
def checkList {α : Type} (check : List String → Value → Checked α) (place : List String)
    (v : Value) : Checked (List α) :=
  match v.listed? with
  | some items => checkAll (items.mapIdx fun i v => check (place ++ [toString i]) v)
  | none => refuse place "Input should be a valid list"

def yesWords : List String := ["1", "true", "t", "yes", "y", "on"]

def noWords : List String := ["0", "false", "f", "no", "n", "off"]

/-- The first number that a signed word of 64 bits does not hold. -/
def wordLimit : Int := Decimal.twoTo 63

/-- The truth value that a word stands for. -/
def flagOf? (word : String) : Option Bool :=
  let word := word.map Char.toLower
  if yesWords.contains word then some true
  else if noWords.contains word then some false else none

/-- A truth value, a one or a zero, or a word for yes or no. -/
def checkFlag (place : List String) (v : Value) : Checked Bool :=
  let unclear : Checked Bool :=
    refuse place "Input should be a valid boolean, unable to interpret input"
  let wrong : Checked Bool := refuse place "Input should be a valid boolean"
  match v with
  | .bool b => .ok b
  | .int i =>
    if i = 0 then .ok false else if i = 1 then .ok true
    else if -wordLimit ≤ i ∧ i < wordLimit then unclear else wrong
  | .float x => match x.toInt? with
    | some i =>
      if i = 0 then .ok false else if i = 1 then .ok true
      else if -wordLimit < i ∧ i < wordLimit then unclear else wrong
    | none => wrong
  | .text s => (flagOf? s).elim unclear .ok
  | .bytes bs => ((String.fromUTF8? ⟨bs.toArray⟩).bind flagOf?).elim unclear .ok
  | _ => wrong

/-- The name that a field is given under, and what is given. -/
def given? (entries : List (Value × Value)) (camel plain : String) : Option (String × Value) :=
  match Value.find? entries camel with
  | some v => some (camel, v)
  | none => (Value.find? entries plain).map fun v => (plain, v)

/-- The field that is given under either name, its default if it is not. -/
def checkField {α : Type} (entries : List (Value × Value)) (camel plain : String) (default : α)
    (check : List String → Value → Checked α) : Checked α :=
  match given? entries camel plain with
  | some (name, v) => check [name] v
  | none => .ok default

def settleName : Option String → Option String
  | some s => if Text.isBlankText s then none else some s
  | none => none

/-- The annotation in the entries of a payload. -/
def check (entries : List (Value × Value)) : Checked TableRequest :=
  let texts := checkList checkText
  let name := checkField entries "tableName" "table_name" none checkOptionalText
  let idKey := checkField entries "withIdPrimaryKey" "with_id_primary_key" false checkFlag
  let key := checkField entries "withPrimaryKey" "with_primary_key" [] texts
  let indexes := checkField entries "indexes" "indexes" [] (checkList texts)
  let unique := checkField entries "uniquenessConstraints" "uniqueness_constraints" []
    (checkList texts)
  let extra := checkField entries "extraSql" "extra_sql" [] texts
  match name, idKey, key, indexes, unique, extra with
  | .ok name, .ok idKey, .ok key, .ok indexes, .ok unique, .ok extra =>
    .ok ⟨settleName name, idKey, key, indexes, unique, extra⟩
  | _, _, _, _, _, _ =>
    .error (complaints name ++ complaints idKey ++ complaints key ++ complaints indexes
      ++ complaints unique ++ complaints extra)

/-- The annotation that a payload encodes for a declaration; null says nothing. -/
def ofValue (v declaration : Value) : Except Fault TableRequest :=
  let checked : Checked TableRequest := match v.bare with
    | .null => .ok plain
    | .mapping entries => check entries
    | _ => refuse [] "Input should be a valid dictionary or instance of DbTableAnnotation"
  match checked with
  | .ok request => .ok request
  | .error cs => Fault.raise (.invalidTable declaration cs)

end TableRequest

end AdlTables
