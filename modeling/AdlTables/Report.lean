import AdlTables.Entries
import AdlTables.Value.Items
import AdlTables.Value.Print

/-! # Reports

What a user is told about a problem: a message, the place it concerns, and what to try. Each
category of problem has a code and suggestions of its own, which stand in where none are given.
-/

namespace AdlTables

/-- The categories of problem. -/
inductive Category where
  | general
  | configuration
  | load
  | reference
  | annotations
  | expansion
  | shape
  | generation
deriving DecidableEq, Repr

namespace Category

/-- The code of a category; general problems have none of their own. -/
def code? : Category → Option String
  | general => none
  | configuration => some "CONFIG_ERROR"
  | load => some "LOAD_ERROR"
  | reference => some "UNRESOLVED_REFERENCE"
  | annotations => some "ANNOTATION_ERROR"
  | expansion => some "ALIAS_EXPANSION_ERROR"
  | shape => some "UNSUPPORTED_TYPE_SHAPE"
  | generation => some "CODE_GENERATION_ERROR"

/-- What to try when nothing more particular is known. -/
def suggestions : Category → List String
  | general => []
  | configuration => [
      "Check the configuration file syntax",
      "Check the dialect name (postgres, postgres-v2, mssql)"]
  | load => [
      "Check the file exists and contains an ADL AST in JSON or YAML form",
      "Add the directory holding imported modules with -I/--searchdir"]
  | reference => [
      "Check the module declaring the type was loaded",
      "Check the search path passed with -I/--searchdir"]
  | annotations => [
      "Check the annotation value matches the common.db declaration",
      "DbColumnName takes a plain string"]
  | expansion => ["Look for a type alias or newtype that refers back to itself"]
  | shape => [
      "Nullable wrappers cannot be nested",
      "DbKey<T> must name a table declaration directly"]
  | generation => ["Check the output directory exists and is writable"]

end Category

/-- A problem as it is shown. -/
structure Report where
  category : Category
  message : String
  context : List (String × Value)
  /-- A value of which each item is something to try. -/
  suggestions : Value
  /-- A value that is empty if there is no code. -/
  code : Value

namespace Report

/-- A report of a category, with the particulars that are not empty put into the given context. -/
def make (category : Category) (message : String) (particulars : List (String × Value))
    (given : List (String × Value)) : Report where
  category := category
  message := message
  context := (particulars.filter fun entry => !entry.2.isEmpty).foldl
    (fun done entry => Entries.put done entry.1 entry.2) given
  suggestions := .texts category.suggestions
  code := (category.code?.map Value.text).getD .null

/-- The whole text of a report, a line for each thing it says. -/
def text (r : Report) : String :=
  let code := if r.code.isEmpty then [] else ["Error Code: " ++ r.code.display]
  let context := if r.context.isEmpty then []
    else "Context:" :: r.context.map fun entry => "  " ++ entry.1 ++ ": " ++ entry.2.display
  let suggestions := if r.suggestions.isEmpty then []
    else "Suggestions:" :: (r.suggestions.items?.getD []).map ("  • " ++ ·.display)
  "\n".intercalate (r.message :: (code ++ context ++ suggestions))

end Report

end AdlTables
