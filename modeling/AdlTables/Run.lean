import AdlTables.Console
import AdlTables.Files.Writing
import AdlTables.Loading
import AdlTables.Options
import AdlTables.Script
import AdlTables.Settings

/-! # Runs

A run of the tool from its command line to its exit status. Everything up to the text of the script
is computed before the first change to a file, and the script is then put in its place in one step:
a run that fails leaves all files as they were.
-/

namespace AdlTables

/-- What a run leaves behind. -/
structure Finished where
  status : Nat
  /-- What was shown. -/
  shown : String
  files : Files

namespace Run

def failure : FailureStatus := ⟨1, Nat.one_ne_zero⟩

/-- The status of a run whose command line is not understood. -/
def misuse : FailureStatus := ⟨2, by decide⟩

def moduleList (names : List Value) : Except Fault String := do
  let shown := ", ".intercalate (← TypeExpr.allTexts names)
  return if shown = "" then "(none)" else shown

def settings (wording : Wording) (files : Files) (o : Options) : Journaled Settings := do
  if o.verbose then
    Journaled.note .debug "Verbose mode enabled. DEBUG level logging activated."
  let settings ← Settings.load wording files o.config o.given
  Journaled.note .debug ("Effective configuration: " ++ settings.display)
  if settings.adlFiles.isEmpty then
    Journaled.note .warning "No ADL files given; the schema will contain no tables."
  return settings

def tables (files : Files) (s : Settings) : Journaled (List TableSchema) := do
  Journaled.phase "ADL loading"
  Journaled.tell .progress ("Loading " ++ toString s.adlFiles.length ++ " ADL file(s)...")
  let loaded ← files.load s.adlFiles s.searchDirs
  let names ← moduleList loaded.requested
  Journaled.tell .highlight ("Modules: " ++ names)
  Journaled.phase "Table mapping"
  let tables ← (← (loaded.graph : Except Fault Graph)).schemas s.dialect.profile
  for table in tables do
    let declaration ← table.declName.say
    Journaled.tell .highlight (declaration ++ " -> " ++ table.name)
  return tables

/-- A script that is to be written. -/
structure Draft where
  path : Path
  content : String
  tableCount : Nat

def draft (wording : Wording) (files : Files) (o : Options) : Journaled Draft := do
  let settings ← settings wording files o
  let tables ← tables files settings
  Journaled.phase "SQL generation"
  let content ← (Script.render tables : Except Fault String)
  return ⟨settings.outputPath, content, tables.length⟩

def writeFault (path : Path) : Cause → Fault
  | .obstacle o => .problem (.unwritableFile path.display o)
  | .mishap m => .mishap m

/-- What is noted when a script has been written. -/
def conclude (d : Draft) : Journaled Unit := do
  Journaled.note .debug ("Generated file: " ++ d.path.display)
  Journaled.tell .success
    ("Wrote " ++ toString d.tableCount ++ " table(s) to " ++ d.path.display)

/-- The entry that tells of a fault, if there is something left to tell; problems are traced on
request, breakdowns always. -/
def faultEntry (wording : Wording) (verbose : Bool) : Fault → Option Entry
  | .problem p => some (.message .error (p.report wording).text verbose)
  | .mishap m =>
    let words := m.message?.getD (wording (.mishap m))
    some (.message .error ("An unexpected error occurred during generation: " ++ words) true)
  | .exit _ | .endless => none

/-- The status that a fault ends a run with. A run that goes on for ever is stopped from outside, or
where there is nothing left for it to use, and has failed then. -/
def faultStatus : Fault → FailureStatus
  | .exit status => status
  | _ => failure

/-- The entries of a run that fails, and its status. -/
def failWith (wording : Wording) (verbose : Bool) (entries : List Entry) (fault : Fault) :
    Nat × List Entry :=
  (faultStatus fault, entries ++ (faultEntry wording verbose fault).toList)

/-- Status, entries and files of a run with options. -/
def perform (host : Host) (wording : Wording) (files : Files) (o : Options) :
    (Nat × List Entry) × Files :=
  let drafted := draft wording files o
  match drafted.outcome with
  | .error fault => (failWith wording o.verbose drafted.entries fault.voiced, files)
  | .ok d =>
    let attempt := files.write host d.path d.content.toUTF8
    match attempt.failure with
    | some cause =>
      (failWith wording o.verbose drafted.entries (writeFault d.path cause), attempt.files)
    | none => ((0, drafted.entries ++ (conclude d).entries), attempt.files)

def console (trace : List String) (isTerminal : Bool) (o : Options) : Console :=
  ⟨Layout.usual, isTerminal && !o.noColor, trace⟩

end Run

/-- A run of the tool on a host. Words for causes, and lines that trace a failure, are those of
whoever shows them; what a command line gets that is not understood, or that asks for help, is shown
elsewhere. -/
def runOn (host : Host) (wording : Wording) (trace : List String) (files : Files)
    (arguments : List String) (isTerminal : Bool) : Finished :=
  match Options.parse arguments with
  | .error .help => ⟨0, "", files⟩
  | .error .usage => ⟨Run.misuse, "", files⟩
  | .ok o =>
    let ((status, entries), files) := Run.perform host wording files o
    let least : Level := if o.verbose then .debug else .info
    ⟨status, (Run.console trace isTerminal o).writeAll least entries, files⟩

/-- A run of the tool on a host that refuses nothing. -/
def run : Wording → List String → Files → List String → Bool → Finished :=
  runOn .willing

end AdlTables
