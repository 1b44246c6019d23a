import AdlTables.Value.Print
import AdlTables.Entries

/-! # Scoped names

The identity of a declaration: the module that owns it and its own name there. Neither part is
checked when a document is read, so both are document values; `IsText` marks the ordinary case.
-/

namespace AdlTables

/-- A module name and a name inside the module. -/
structure ScopedName where
  moduleName : Value
  name : Value
deriving Repr, Inhabited

namespace ScopedName

def ofTexts (moduleName name : String) : ScopedName :=
  ⟨.text moduleName, .text name⟩

/-- Equality as keys, part by part. -/
def same (a b : ScopedName) : Bool :=
  a.moduleName.same b.moduleName && a.name.same b.name

instance : KeyLike ScopedName := ⟨same⟩

/-- Whether both parts can be keys. -/
def isKey (n : ScopedName) : Bool :=
  n.moduleName.key?.isSome && n.name.key?.isSome

/-- Both parts are texts. -/
def IsText (n : ScopedName) : Prop :=
  ∃ moduleName name, n = ofTexts moduleName name

/-- The module and the name with a point between them. -/
def display (n : ScopedName) : String :=
  n.moduleName.display ++ "." ++ n.name.display

/-- The standard optional type. -/
def maybe : ScopedName := ofTexts "sys.types" "Maybe"

/-- A moment in time. -/
def instant : ScopedName := ofTexts "common" "Instant"

/-- A calendar day without a time zone. -/
def localDate : ScopedName := ofTexts "common" "LocalDate"

/-- A moment without a time zone. -/
def localDateTime : ScopedName := ofTexts "common" "LocalDateTime"

def dbKey : ScopedName := ofTexts "common.db" "DbKey"

/-- The annotation that makes a struct a table. -/
def dbTable : ScopedName := ofTexts "common.db" "DbTable"

/-- The annotation that names a column. -/
def dbColumnName : ScopedName := ofTexts "common.db" "DbColumnName"

end ScopedName

end AdlTables
