import AdlTables.ScopedName
import AdlTables.Report

/-! # Faults

How an operation can fail. A `Problem` is a fault of the input that the tool reports in its own
words; a `Mishap` is a breakdown that nothing reports, because a value was used as something that it
is not. `Problem.report` holds all wording of problems. The words for a breakdown or for an obstacle
of the system are not the tool's own: whoever shows a report passes them in as a `Wording`.
-/

namespace AdlTables

/-- A breakdown: a value was used as something that it is not. -/
inductive Mishap where
  /-- A mapping has no value under a key that was taken for granted. -/
  | missingKey (key : String)
  /-- A value of the wrong kind took part in an operation. -/
  | wrongKind
  /-- A value has no such member. -/
  | noMember
  /-- A value of the right kind lies outside what an operation accepts. -/
  | badValue
  /-- There is nothing at a position that was taken for granted. -/
  | missingItem
  /-- A number is too large for its form. -/
  | tooLarge
  /-- Values inside values are followed too far, as they are where a value holds itself. -/
  | tooDeep
  /-- A mapping gets an entry while its entries are run through. -/
  | grows
  /-- Bytes are no text. -/
  | notText
  /-- The system refused to say whether a file exists. -/
  | refused
  /-- A name to convert is no text but of the given kind. -/
  | nameNotText (kind : String)
  /-- A setting that lists paths is no list. -/
  | pathsNotList
  /-- An item of a list of paths is no text but of the given kind. -/
  | pathNotText (index : Nat) (kind : String)
deriving DecidableEq, Repr

/-- Whether a breakdown shows that a part is missing, or is not of the kind that it should be. -/
def Mishap.isLack : Mishap → Bool
  | missingKey _ => true
  | wrongKind => true
  | noMember => true
  | _ => false

/-- The message of a breakdown that the tool words itself. -/
def Mishap.message? : Mishap → Option String
  | nameNotText kind => some ("Expected string, got " ++ kind)
  | pathsNotList => some "Expected a list of paths."
  | pathNotText index kind =>
    some ("Item at index " ++ toString index ++ " must be a string, found: " ++ kind)
  | _ => none

/-- What keeps a file from being read or written. -/
inductive Obstacle where
  | malformed
  | directory
  | notDirectory
  | nameTooLong
  | nameTaken
deriving DecidableEq, Repr

/-- A cause whose words are not the tool's own. -/
inductive Cause where
  | mishap (m : Mishap)
  | obstacle (o : Obstacle)
deriving DecidableEq, Repr

namespace Cause

/-- Fails because a text is not written in its format. -/
def malformed {α : Type} : Except Cause α :=
  .error (.obstacle .malformed)

/-- What an option holds, if it holds a value. -/
def orMalformed {α : Type} : Option α → Except Cause α
  | some a => .ok a
  | none => malformed

def breakDown {α : Type} (m : Mishap) : Except Cause α :=
  .error (.mishap m)

end Cause

abbrev Wording := Cause → String

/-- One thing wrong with a payload: where, and what. -/
structure Complaint where
  place : List String
  text : String
deriving DecidableEq, Repr

/-- The faults of an input that are reported. -/
inductive Problem where
  | nameWithoutModule (name : String)
  | invalidScopedName (value : Value)
  | invalidUnion (value : Value)
  | invalidTypeExpr (value : Value)
  | unknownTypeRef (kind : Value)
  | invalidAnnotationEntry (entry : Value)
  | invalidDeclaration (name : Value) (cause : Mishap)
  | unknownDeclaration (kind name : Value)
  | invalidModule (value : Value)
  | fileNotFound (path : String)
  | unreadableFile (path : String) (obstacle : Obstacle)
  | noModuleObject (path : String)
  | importNotFound (moduleName : Value) (searchDirs : List String)
  | moduleNotLoaded (name : ScopedName)
  | declarationNotFound (name : ScopedName)
  | invalidTable (declaration : Value) (complaints : List Complaint)
  | invalidColumnName (owner value : Value)
  | endlessExpansion (type : Value) (chain : List String)
  | unboundParameter (name type : Value)
  | optionalArity (count : Nat) (type : Value)
  | argumentCount (name : ScopedName) (expected actual : Nat) (type : Value)
  | nestedOptional (type : Value)
  | keyArity (count : Nat) (type : Value)
  | keyOfOptional (type : Value)
  | unknownDialect (name : Value)
  | unwritableFile (path : String) (obstacle : Obstacle)
deriving Repr

/-- The status of a run that fails, which is not zero. -/
abbrev FailureStatus := { status : Nat // status ≠ 0 }

/-- How an operation fails. -/
inductive Fault where
  | problem (p : Problem)
  | mishap (m : Mishap)
  /-- Everything has been reported, and the run ends with a status. -/
  | exit (status : FailureStatus)
  /-- What stands for the outcome of a computation that goes on for ever. -/
  | endless
deriving Repr

namespace Problem

/-- The words for what a declaration lacks: a missing key is quoted. -/
def lack (wording : Wording) : Mishap → String
  | .missingKey key => Text.quoted key
  | m => wording (.mishap m)

/-- The names of the dialects, as they are shown. -/
def dialectNames : List String := ["postgres", "postgres-v2", "mssql"]

def report (wording : Wording) : Problem → Report
  | nameWithoutModule name =>
    .make .load ("Scoped name '" ++ name ++ "' has no module part") [] []
  | invalidScopedName value => .make .load ("Invalid scoped name: " ++ value.literal) [] []
  | invalidUnion value => .make .load ("Invalid union value: " ++ value.literal) [] []
  | invalidTypeExpr value => .make .load ("Invalid type expression: " ++ value.literal) [] []
  | unknownTypeRef kind =>
    .make .load ("Unknown type reference kind '" ++ kind.display ++ "'") [] []
  | invalidAnnotationEntry entry =>
    .make .load ("Invalid annotation entry: " ++ entry.literal) [] []
  | invalidDeclaration name cause =>
    .make .load ("Invalid declaration " ++ name.literal ++ ": missing " ++ lack wording cause) [] []
  | unknownDeclaration kind name =>
    .make .load
      ("Unknown declaration kind '" ++ kind.display ++ "' for '" ++ name.display ++ "'") [] []
  | invalidModule value =>
    .make .load ("Invalid module: " ++ String.ofList (value.display.toList.take 80)) [] []
  | fileNotFound path => .make .load "ADL file not found" [("path", .text path)] []
  | unreadableFile path obstacle =>
    .make .load ("Could not read ADL file: " ++ wording (.obstacle obstacle))
      [("path", .text path)] []
  | noModuleObject path =>
    .make .load "ADL file does not contain a module object" [("path", .text path)] []
  | importNotFound moduleName searchDirs =>
    .make .load ("Imported module '" ++ moduleName.display ++ "' was not found on the search path")
      [("module", moduleName)] [("search_dirs", .texts searchDirs)]
  | moduleNotLoaded name =>
    .make .reference ("Module '" ++ name.moduleName.display ++ "' is not loaded")
      [("scoped_name", .text name.display)] []
  | declarationNotFound name =>
    .make .reference
      ("Module '" ++ name.moduleName.display ++ "' has no declaration '" ++ name.name.display
        ++ "'")
      [("scoped_name", .text name.display)] []
  | invalidTable declaration complaints =>
    let details := "; ".intercalate
      (complaints.map fun c => ".".intercalate c.place ++ ": " ++ c.text)
    .make .annotations
      ("Invalid DbTable annotation on '" ++ declaration.display ++ "': " ++ details)
      [("declaration", declaration), ("annotation", .text ScopedName.dbTable.display)] []
  | invalidColumnName owner value =>
    .make .annotations
      ("DbColumnName annotation on '" ++ owner.display ++ "' must be a non-empty string, got "
        ++ value.literal)
      [("declaration", owner), ("annotation", .text ScopedName.dbColumnName.display)] []
  | endlessExpansion type chain =>
    .make .expansion ("Expansion of " ++ type.display ++ " does not terminate")
      [("type_expr", type), ("expansion_chain", .text (" -> ".intercalate chain))] []
  | unboundParameter name type =>
    .make .shape ("Type parameter '" ++ name.display ++ "' is not bound to a concrete type")
      [("type_expr", type)] []
  | optionalArity count type =>
    .make .shape ("Optional wrapper takes exactly one type argument, got " ++ toString count)
      [("type_expr", type)] []
  | argumentCount name expected actual type =>
    .make .shape
      (name.display ++ " expects " ++ toString expected ++ " type argument(s), got "
        ++ toString actual)
      [("type_expr", type)] []
  | nestedOptional type =>
    .make .shape "Nested optional types have no column mapping" [("type_expr", type)] []
  | keyArity count type =>
    .make .shape ("DbKey takes exactly one type argument, got " ++ toString count)
      [("type_expr", type)] []
  | keyOfOptional type =>
    .make .shape "DbKey cannot wrap an optional type" [("type_expr", type)] []
  | unknownDialect name =>
    .make .configuration ("Unknown SQL dialect: " ++ name.display) []
      [("supported_dialects", .texts dialectNames)]
  | unwritableFile path obstacle =>
    .make .generation ("Could not write schema file: " ++ wording (.obstacle obstacle))
      [("output_path", .text path)] []

/-- The values of a document that the report on a problem shows. -/
def shown : Problem → List Value
  | invalidScopedName value => [value]
  | invalidUnion value => [value]
  | invalidTypeExpr value => [value]
  | unknownTypeRef kind => [kind]
  | invalidAnnotationEntry entry => [entry]
  | invalidDeclaration name _ => [name]
  | unknownDeclaration kind name => [kind, name]
  | invalidModule value => [value]
  | importNotFound moduleName _ => [moduleName]
  | moduleNotLoaded name => [name.moduleName, name.name]
  | declarationNotFound name => [name.moduleName, name.name]
  | invalidTable declaration _ => [declaration]
  | invalidColumnName owner value => [owner, value]
  | endlessExpansion type _ => [type]
  | unboundParameter name type => [name, type]
  | optionalArity _ type => [type]
  | argumentCount name _ _ type => [name.moduleName, name.name, type]
  | nestedOptional type => [type]
  | keyArity _ type => [type]
  | keyOfOptional type => [type]
  | unknownDialect name => [name]
  | nameWithoutModule _ | fileNotFound _ | unreadableFile _ _ | noModuleObject _
  | unwritableFile _ _ => []

def category (p : Problem) : Category :=
  (p.report fun _ => "").category

end Problem

namespace Fault

def raise {α : Type} (p : Problem) : Except Fault α :=
  .error (.problem p)

def breakDown {α : Type} (m : Mishap) : Except Fault α :=
  .error (.mishap m)

/-- A fault as it comes out when it is put into words: a report that would show a number that cannot
be written breaks down. -/
def voiced : Fault → Fault
  | problem p => if p.shown.all Value.isSayable then problem p else mishap .badValue
  | f => f

end Fault

end AdlTables
