import AdlTables.Dialect
import AdlTables.Document
import AdlTables.Files
import AdlTables.Journal
import AdlTables.Text.Blank
import AdlTables.Value.Access

/-! # Settings

What a run is told to do. Settings come from a file, over which the ones given on the command line
take precedence. Everything that is wrong with their values is printed at once and ends the run; a
list of paths that is no list of texts breaks down instead. A file that cannot be read counts as no
file.
-/

namespace AdlTables

/-- The settings of a run. -/
structure Settings where
  adlFiles : List String
  searchDirs : List String
  outfile : String
  outputDir : Option String
  dialect : Dialect
deriving DecidableEq, Repr

/-- What is wrong with the value of a setting. -/
inductive Flaw where
  /-- Something to say about it. -/
  | complaint (text : String)
  /-- Something that breaks down. -/
  | mishap (m : Mishap)
deriving DecidableEq, Repr

namespace Settings

/-- The file that is written unless another is named. -/
def standardOutfile : String := "create.sql"

/-- The path that the script is written to. -/
def outputPath (s : Settings) : Path :=
  .ofString s.outfile

def display (s : Settings) : String :=
  "adl_files=" ++ (Value.texts s.adlFiles).literal
    ++ " search_dirs=" ++ (Value.texts s.searchDirs).literal
    ++ " outfile=" ++ (Value.text s.outfile).literal
    ++ " output_dir=" ++ ((s.outputDir.map Value.text).getD .null).literal
    ++ " dialect=" ++ (Value.text s.dialect.name).literal

/-- The paths in the items of a list, trimmed, the first of which has the given index. -/
def pathItems (index : Nat) : List Value → Except Flaw (List String)
  | [] => .ok []
  | .text s :: rest =>
    if Text.isBlankText s then
      .error (.complaint
        ("Value error, Item at index " ++ toString index
          ++ " cannot be empty or just whitespace."))
    else do return Text.trim s :: (← pathItems (index + 1) rest)
  | v :: _ => .error (.mishap (.pathNotText index v.kindName))

/-- A list of paths; one path will do, and null is an empty list. -/
def paths (v : Value) : Except Flaw (List String) :=
  match v.bare with
  | .null => .ok []
  | .text s => pathItems 0 [.text s]
  | .list items => pathItems 0 items
  | _ => .error (.mishap .pathsNotList)

def text (v : Value) : Except Flaw String :=
  v.readText.mapError Flaw.complaint

def someText (v : Value) : Except Flaw String := do
  let s ← text v
  if s = "" then .error (.complaint "String should have at least 1 character") else return s

def optionalText : Value → Except Flaw (Option String)
  | .null => .ok none
  | v => (text v).map some

def dialectOf (v : Value) : Except Flaw Dialect :=
  match v.text?.bind Dialect.named? with
  | some d => .ok d
  | none => .error (.complaint "Input should be 'postgres', 'postgres-v2' or 'mssql'")

/-- The value of a setting, its default if it is not given. -/
def setting {α : Type} (values : List (Value × Value)) (name : String) (default : α)
    (read : Value → Except Flaw α) : Except Flaw α :=
  match Value.find? values name with
  | some v => read v
  | none => .ok default

def flaw? {α : Type} : Except Flaw α → Option Flaw
  | .ok _ => none
  | .error f => some f

/-- The breakdown among flaws that comes first, if there is one. -/
def firstMishap? (flaws : List (String × Option Flaw)) : Option Mishap :=
  flaws.findSome? fun (_, f) => match f with
    | some (.mishap m) => some m
    | _ => none

def complaintLines (name text : String) : List String :=
  ["  - Location: '" ++ name ++ "'", "    Error:    " ++ text]
    ++ if name = "dialect" then
      ["    Hint:     Use one of: " ++ ", ".intercalate Problem.dialectNames ++ "."] else []

def flawLines (flaws : List (String × Option Flaw)) : List String :=
  ["", "--- Configuration Errors ---"]
    ++ flaws.flatMap (fun (name, f) => match f with
      | some (.complaint text) => complaintLines name text
      | _ => [])
    ++ ["----------------------------"]

/-- The directory for the script, which is out of use, takes the place of the script's path. -/
def settleOutput (s : Settings) : Journaled Settings :=
  match s.outputDir with
  | none => pure s
  | some dir =>
    if dir = "" then pure s
    else do
      Journaled.note .warning "'output_dir' is deprecated, use 'outfile' instead."
      return { s with outfile := ((Path.ofString dir).join (.ofString standardOutfile)).display }

def ofValues (values : List (Value × Value)) : Journaled Settings := do
  let adlFiles := setting values "adl_files" [] paths
  let searchDirs := setting values "search_dirs" [] paths
  let outfile := setting values "outfile" standardOutfile someText
  let outputDir := setting values "output_dir" none optionalText
  let dialect := setting values "dialect" Dialect.postgres dialectOf
  match adlFiles, searchDirs, outfile, outputDir, dialect with
  | .ok adlFiles, .ok searchDirs, .ok outfile, .ok outputDir, .ok dialect =>
    let settled ← settleOutput ⟨adlFiles, searchDirs, outfile, outputDir, dialect⟩
    Journaled.note .debug
      "Configuration dictionary parsed and validated successfully against schema."
    return settled
  | _, _, _, _, _ =>
    let flaws := [("adl_files", flaw? adlFiles), ("search_dirs", flaw? searchDirs),
      ("outfile", flaw? outfile), ("output_dir", flaw? outputDir), ("dialect", flaw? dialect)]
    match firstMishap? flaws with
    | some m => Journaled.fail (.mishap m)
    | none =>
      Journaled.note .critical
        "Configuration validation failed! Please check your config file or arguments."
      Journaled.print (flawLines flaws)
      Journaled.fail (.exit ⟨1, Nat.one_ne_zero⟩)

def names : List String := ["adl_files", "search_dirs", "outfile", "output_dir", "dialect"]

/-- The document of a file of settings; none if it cannot be read, which is noted. -/
def document (wording : Wording) (shown : String) (content : ByteArray) : Journaled Value :=
  match Document.ofContent false content with
  | .ok v => pure v
  | .error (.mishap m) => Journaled.fail (.mishap m)
  | .error (.obstacle o) => do
    Journaled.note .error
      ("Error reading config file " ++ shown ++ ": " ++ wording (.obstacle o))
    Journaled.note .warning "Proceeding with defaults and CLI arguments only."
    return .null

def entriesOf (shown : String) (v : Value) : Journaled (List (Value × Value)) :=
  if v.isEmpty then pure []
  else match v.bare with
    | .mapping entries => do
      Journaled.note .debug ("Loaded configuration from " ++ shown)
      return entries
    | _ => do
      Journaled.note .warning
        ("Content in config file " ++ shown ++ " is not a dictionary. Ignoring file content.")
      return []

def fromFile (wording : Wording) (files : Files) (shown : String) :
    Journaled (List (Value × Value)) := do
  let path := Path.ofString shown
  if !(← (files.isFile path : Except Fault Bool)) then
    Journaled.note .warning
      ("Config file not found at " ++ shown ++ ". Using defaults and CLI arguments.")
    return []
  match files.read path with
  | .bytes content => entriesOf shown (← document wording shown content)
  | .missing => return []
  | .failed _ => return []

def isGiven : Value → Bool
  | .null => false
  | .list [] => false
  | _ => true

/-- The settings of a run: those in the file at a path, if there is one, and over them the given
ones. -/
def load (wording : Wording) (files : Files) (path : Option String)
    (given : List (String × Value)) : Journaled Settings := do
  let fromPath ← match path with
    | none => pure []
    | some shown => if shown = "" then pure [] else fromFile wording files shown
  let given := given.filter fun (name, v) => isGiven v && names.contains name
  let values := given.foldl (fun done (name, v) => Entries.put done (Value.text name) v) fromPath
  if !given.isEmpty then
    let sorted := (given.map (·.1)).mergeSort fun a b => a ≤ b
    Journaled.note .debug
      ("Overridden config keys from CLI arguments: " ++ (Value.texts sorted).literal)
  Journaled.note .debug "Validating final configuration..."
  let settings ← ofValues values
  Journaled.note .debug "Configuration loaded and validated successfully."
  return settings

end Settings

end AdlTables
