import AdlTables.Path
import AdlTables.Fault

/-! # Files

Directories and files as a value. Paths are followed name by name from the current directory or the
root, and every name on the way has to be that of a directory.
-/

namespace AdlTables

/-- What stands at a place. -/
inductive FileEntry where
  | directory
  | file (content : ByteArray)

/-- Directories and files by their names from the root, with the current directory. -/
structure Files where
  current : List String
  entries : List (List String × FileEntry)

/-- What a path leads to. -/
inductive Place where
  | directory (names : List String)
  | file (names : List String) (content : ByteArray)
  /-- Nothing, in a directory that exists. -/
  | free (names : List String)
  /-- A directory on the way does not exist. -/
  | absent
  /-- A file stands where a directory is needed. -/
  | blocked
  /-- A name, or the whole path, is longer than the system allows. -/
  | tooLong

namespace Files

/-- The entry at a place; the root is a directory. -/
def get? (f : Files) (names : List String) : Option FileEntry :=
  if names.isEmpty then some .directory else f.entries.lookup names

def set (f : Files) (names : List String) (entry : FileEntry) : Files :=
  if f.entries.any (·.1 == names) then
    ⟨f.current, f.entries.map fun e => if e.1 == names then (names, entry) else e⟩
  else ⟨f.current, f.entries ++ [(names, entry)]⟩

/-- The files without what stands at a place. -/
def remove (f : Files) (names : List String) : Files :=
  ⟨f.current, f.entries.filter fun entry => entry.1 != names⟩

/-- The files with what stands at one place moved to another. -/
def move (f : Files) (source target : List String) : Files :=
  match f.get? source with
  | some entry => (f.remove source).set target entry
  | none => f

def mostBytes : Nat := 255

/-- What names lead to from a directory. -/
def follow (f : Files) (here : List String) : List String → Place
  | [] => .directory here
  | name :: rest =>
    if name = ".." then f.follow here.dropLast rest
    else if name.utf8ByteSize > mostBytes then .tooLong
    else match f.get? (here ++ [name]) with
      | some .directory => f.follow (here ++ [name]) rest
      | some (.file content) =>
        if rest.isEmpty then .file (here ++ [name]) content else .blocked
      | none => if rest.isEmpty then .free (here ++ [name]) else .absent

def mostPathBytes : Nat := 4095

def locate (f : Files) (p : Path) : Place :=
  if p.display.utf8ByteSize > mostPathBytes then .tooLong
  else f.follow (if p.root = "" then f.current else []) p.parts

def isFile (f : Files) (p : Path) : Except Fault Bool :=
  if p.hasNull then .ok false
  else match f.locate p with
    | .file _ _ => .ok true
    | .tooLong => Fault.breakDown .refused
    | _ => .ok false

/-- What reading a path comes to. -/
inductive Content where
  | bytes (content : ByteArray)
  | missing
  | failed (c : Cause)

def read (f : Files) (p : Path) : Content :=
  if p.hasNull then .failed (.mishap .badValue)
  else match f.locate p with
    | .file _ content => .bytes content
    | .directory _ => .failed (.obstacle .directory)
    | .free _ | .absent => .missing
    | .blocked => .failed (.obstacle .notDirectory)
    | .tooLong => .failed (.obstacle .nameTooLong)

end Files

end AdlTables
