import AdlTables.Files

/-! # Writing files

A file is drafted beside its place, under a name that is not in use, and then moved there in one
step. Each step can fail because of what the files are, and the host may refuse it for reasons of
its own; only the removal of a draft is never refused. A write that fails takes its draft away
again. Directories that it has made on the path stay.
-/

namespace AdlTables

/-- The steps of a write that a host can refuse. -/
inductive WriteStep where
  | makeDirectory (path : Path)
  | openDraft
  | fillDraft
  /-- Lets everybody read the draft. -/
  | shareDraft
  | moveDraft
deriving DecidableEq, Repr

/-- What files are written on. -/
structure Host where
  /-- The ends of the names for drafts, in the order in which they are tried. -/
  ending : Nat → String
  /-- Why a step is refused, if it is. -/
  refusal? : WriteStep → Option Cause
  /-- The number of bytes that get into a draft that is refused to be filled. -/
  room : Nat

namespace Host

/-- The number of places of the ends of names for drafts. -/
def endingLength : Nat := 8

/-- A host that refuses nothing and numbers its drafts. -/
def willing : Host where
  ending n :=
    let digits := Nat.toDigits 10 n
    String.ofList (List.replicate (endingLength - digits.length) '0' ++ digits)
  refusal? _ := none
  room := 0

end Host

/-- Files after an attempt to change them, and what stood in the way. -/
structure Attempt where
  files : Files
  failure : Option Cause

namespace Attempt

/-- An attempt that goes on where the first got to, unless that failed. -/
def andThen (a : Attempt) (next : Files → Attempt) : Attempt :=
  match a.failure with
  | some _ => a
  | none => next a.files

/-- An attempt with a change made to the files if it failed. -/
def orUndo (a : Attempt) (undo : Files → Files) : Attempt :=
  match a.failure with
  | some failure => ⟨undo a.files, some failure⟩
  | none => a

end Attempt

/-- Takes a step unless the host refuses it, which changes nothing. -/
def Host.attempt (h : Host) (step : WriteStep) (f : Files) (take : Files → Attempt) : Attempt :=
  match h.refusal? step with
  | some failure => ⟨f, some failure⟩
  | none => take f

namespace Files

/-- Makes a directory in one that exists; one that is there already will do. -/
def makeDirectory (h : Host) (f : Files) (p : Path) : Attempt :=
  match f.locate p with
  | .directory _ => ⟨f, none⟩
  | .free names =>
    h.attempt (.makeDirectory p) f fun f => ⟨f.set names .directory, none⟩
  | .file _ _ | .blocked | .absent => ⟨f, some (.obstacle .notDirectory)⟩
  | .tooLong => ⟨f, some (.obstacle .nameTooLong)⟩

/-- Makes the directories that a path's names lead through, one after another. -/
def makeDirectories (h : Host) (f : Files) (root : String) (done : List String) :
    List String → Attempt
  | [] => ⟨f, none⟩
  | name :: rest => (f.makeDirectory h ⟨root, done ++ [name]⟩).andThen fun f =>
    f.makeDirectories h root (done ++ [name]) rest

def draftPath (p : Path) (ending : String) : Path :=
  p.parent.join ⟨"", ["." ++ p.name ++ "." ++ ending ++ ".tmp"]⟩

def mostDrafts : Nat := 10000

/-- A place for a draft that is not in use; `tries` names are tried, from the one with a number
on. -/
def freeDraft (h : Host) (f : Files) (p : Path) (number : Nat) :
    Nat → Except Cause (List String)
  | 0 => .error (.obstacle .nameTaken)
  | tries + 1 => match f.locate (draftPath p (h.ending number)) with
    | .free names => .ok names
    | .file _ _ | .directory _ => f.freeDraft h p (number + 1) tries
    | .absent | .blocked => .error (.obstacle .notDirectory)
    | .tooLong => .error (.obstacle .nameTooLong)

/-- Opens an empty draft and tells its place. -/
def openDraft (h : Host) (f : Files) (p : Path) : Except Cause (List String × Files) :=
  match h.refusal? .openDraft with
  | some failure => .error failure
  | none => (f.freeDraft h p 0 mostDrafts).map fun draft => (draft, f.set draft (.file .empty))

/-- Fills an open draft; if this is refused a part of the content may be in it. -/
def fillDraft (h : Host) (f : Files) (draft : List String) (content : ByteArray) : Attempt :=
  match h.refusal? .fillDraft with
  | some failure => ⟨f.set draft (.file (content.extract 0 h.room)), some failure⟩
  | none => ⟨f.set draft (.file content), none⟩

/-- Moves a draft to where a path leads, unless a directory stands there. -/
def moveDraft (f : Files) (draft : List String) (p : Path) : Attempt :=
  match f.locate p with
  | .file names _ | .free names => ⟨f.move draft names, none⟩
  | .directory _ => ⟨f, some (.obstacle .directory)⟩
  | .absent | .blocked => ⟨f, some (.obstacle .notDirectory)⟩
  | .tooLong => ⟨f, some (.obstacle .nameTooLong)⟩

/-- Fills an open draft and moves it to where a path leads. -/
def finishDraft (h : Host) (f : Files) (draft : List String) (p : Path) (content : ByteArray) :
    Attempt :=
  let filled := f.fillDraft h draft content
  let shared := filled.andThen fun f => h.attempt .shareDraft f fun f => ⟨f, none⟩
  shared.andThen fun f => h.attempt .moveDraft f fun f => f.moveDraft draft p

/-- Puts content in place of the file at a path, whose directory exists. -/
def replace (h : Host) (f : Files) (p : Path) (content : ByteArray) : Attempt :=
  if p.hasNull then ⟨f, some (.mishap .badValue)⟩
  else match f.openDraft h p with
    | .error failure => ⟨f, some failure⟩
    | .ok (draft, opened) =>
      (opened.finishDraft h draft p content).orUndo fun f => f.remove draft

/-- Writes a file, making the directories on its path. -/
def write (h : Host) (f : Files) (p : Path) (content : ByteArray) : Attempt :=
  if p.parent.hasNull then ⟨f, some (.mishap .badValue)⟩
  else if p.parent.display.utf8ByteSize > mostPathBytes then ⟨f, some (.obstacle .nameTooLong)⟩
  else (f.makeDirectories h p.root [] p.parent.parts).andThen fun f => f.replace h p content

end Files

end AdlTables
