import AdlTables.Run

/-! # The program

The outermost layer: it takes the files of the system as a value, runs the tool on them, and writes
back the files that the run changed. Files under the current directory are seen, and files and
directories elsewhere that an argument names.
-/

namespace AdlTables.Program

/-- Words for what keeps a file from being read or written. -/
def obstacleWords : Obstacle → String
  | .malformed => "the content is malformed"
  | .directory => "it is a directory"
  | .notDirectory => "a file stands where a directory is needed"
  | .nameTooLong => "the name is too long"
  | .nameTaken => "every name that was tried is taken"

def mishapWords : Mishap → String
  | .missingKey key => "no value under " ++ Text.quoted key
  | .wrongKind => "a value is of the wrong kind"
  | .noMember => "a value has no such member"
  | .badValue => "a value is out of range"
  | .missingItem => "there is nothing at a position"
  | .tooLarge => "a number is too large"
  | .tooDeep => "values are nested too deep"
  | .grows => "a mapping grows while it is run through"
  | .notText => "the bytes are no text"
  | .refused => "the system refused"
  | m => m.message?.getD ""

def wording : Wording
  | .mishap m => mishapWords m
  | .obstacle o => obstacleWords o

/-- How the tool is called. -/
def usage : String :=
  "usage: adl-sql [-h] [-I DIR] [--outfile OUTFILE] [--outputdir DIR] [--postgres | --postgres-v2"
    ++ " | --mssql] [-c CONFIG] [-v] [--no-color] [ADLFILE ...]"

/-- The names from the root that a path leads through, from a current directory. -/
def namesFrom (current : List String) (p : Path) : List String :=
  p.parts.foldl (fun names part => if part = ".." then names.dropLast else names ++ [part])
    (if p.root = "" then current else [])

def systemPath (names : List String) : String :=
  "/" ++ "/".intercalate names

/-- Files with the directories that lead to a place. -/
def withAncestors (f : Files) (names : List String) : Files :=
  (List.range names.length).foldl (fun f n =>
    if (f.get? (names.take n)).isSome then f else f.set (names.take n) .directory) f

/-- Files with what the system has at a place, and below if it is a directory. -/
def withTree (f : Files) (names : List String) : IO Files := do
  let mut files := withAncestors f names
  let root ← IO.FS.realPath (systemPath names)
  if ← root.isDir then
    files := files.set names .directory
    for path in ← root.walkDir do
      let below := (Path.ofString path.toString).parts.drop
        (Path.ofString root.toString).parts.length
      if ← path.isDir then files := files.set (names ++ below) .directory
      else files := files.set (names ++ below) (.file (← IO.FS.readBinFile path))
  else files := files.set names (.file (← IO.FS.readBinFile root))
  return files

def snapshot (arguments : List String) : IO Files := do
  let here := (Path.ofString (← IO.currentDir).toString).parts
  let mut files ← withTree ⟨here, []⟩ here
  for argument in arguments do
    let names := namesFrom here (.ofString argument)
    unless here.isPrefixOf names || names.isEmpty do
      try files ← withTree files names
      catch _ => pure ()
  return files

/-- Writes the files that a run changed; each is drafted beside its place first. -/
def writeBack (before after : Files) : IO Unit := do
  for (names, entry) in after.entries do
    match entry with
    | .directory =>
      if (before.get? names).isNone then IO.FS.createDirAll (systemPath names)
    | .file content =>
      let isSame := match before.get? names with
        | some (.file old) => old.data == content.data
        | _ => false
      unless isSame do
        let draft := systemPath names ++ ".tmp"
        IO.FS.writeBinFile draft content
        IO.FS.rename draft (systemPath names)

end AdlTables.Program

open AdlTables AdlTables.Program in
/-- Runs the tool with the arguments of the command line. -/
def main (arguments : List String) : IO UInt32 := do
  let err ← IO.getStderr
  match Options.parse arguments with
  | .error .help =>
    IO.println usage
    return 0
  | .error .usage =>
    err.putStrLn usage
    return UInt32.ofNat Run.misuse
  | .ok _ =>
    let files ← snapshot arguments
    let finished := run wording [] files arguments (← err.isTty)
    err.putStr finished.shown
    writeBack files finished.files
    return UInt32.ofNat finished.status
