import AdlTables.Graph
import AdlTables.Journal
import AdlTables.Library
import AdlTables.Standard

/-! # Loading

The modules of a run: those in the named files, everything that they import, directly or through
others, and the standard modules. Imports are looked up in a library, and a standard module serves
where the library has none. A look passes a name or takes up modules. A file is read again whenever
it is found again, and where it gives its module a new name each time the looks have no end.
-/

namespace AdlTables

/-- Modules that are loaded, and names of imports to look at, the next one first. -/
structure Gathering where
  modules : List (Value × Module)
  pending : List Value
  /-- Where the files stand that were found for imports and read. -/
  read : List Path

namespace Gathering

/-- Takes up a module from a file unless its name is taken. -/
def add (place : Path) (g : Gathering) (m : Module) : Journaled Gathering :=
  if m.name.key?.isNone then Journaled.fail (.mishap .wrongKind)
  else if Entries.has g.modules m.name then pure g
  else do
    let shown ← m.name.say
    Journaled.note .debug ("Loaded imported module " ++ shown ++ " from " ++ place.display)
    return { g with
      modules := Entries.put g.modules m.name m
      pending := m.imports.reverse ++ g.pending }

/-- The next reading of a file that is found at a place. -/
def reading (g : Gathering) (place : Path) : Reading :=
  .found place (g.read.count place)

/-- A gathering that has read the file at a place once more. -/
def reads (g : Gathering) (place : Path) : Gathering :=
  { g with read := place :: g.read }

def look (library : Library) (g : Gathering) (name : Value) : Journaled Gathering :=
  if name.key?.isNone then Journaled.fail (.mishap .wrongKind)
  else if Entries.has g.modules name then pure g
  else do
    match ← library.search name with
    | some (place, found) =>
      (found.map (Module.inReading (g.reading place))).foldlM (add place) (g.reads place)
    | none => match Entries.find? Standard.modules name with
      | some m => return { g with modules := Entries.put g.modules name m }
      | none => Journaled.raise (.importNotFound name library.places)

/-- A round of a gathering, which passes the next pending name. -/
def Round (library : Library) (g g' : Gathering) : Prop :=
  ∃ name pending, g.pending = name :: pending ∧
    (look library { g with pending := pending } name).outcome = .ok g'

def Fails (library : Library) (g : Gathering) (fault : Fault) : Prop :=
  ∃ name pending, g.pending = name :: pending ∧
    (look library { g with pending := pending } name).outcome = .error fault

/-- Rounds of a gathering, one after another, with their number. -/
inductive Rounds (library : Library) (g : Gathering) : Nat → Gathering → Prop
  | start : Rounds library g 0 g
  | next {n : Nat} {g' g'' : Gathering} :
    Rounds library g n g' → Round library g' g'' → Rounds library g (n + 1) g''

/-- What rounds come to: all modules when nothing is pending any more, or how a round fails. -/
def EndsWith (library : Library) (g : Gathering)
    (outcome : Except Fault (List (Value × Module))) : Prop :=
  ∃ n last, Rounds library g n last ∧
    (last.pending = [] ∧ outcome = .ok last.modules ∨
      ∃ fault, last.Fails library fault ∧ outcome = .error fault)

/-- Where a gathering has come by rounds, with what was written down on the way. -/
structure Stage (library : Library) (g : Gathering) where
  entries : List Entry
  here : Gathering
  reached : ∃ n, Rounds library g n here

abbrev End (library : Library) (g : Gathering) :=
  { j : Journaled (List (Value × Module)) // EndsWith library g j.outcome }

/-- The next stage or the end. -/
def Stage.step {library : Library} {g : Gathering} (s : Stage library g) :
    Stage library g ⊕ Option (End library g) :=
  match next : s.here.pending with
  | [] => .inr (some ⟨⟨s.entries, .ok s.here.modules⟩,
      s.reached.imp fun _ rounds => ⟨_, rounds, .inl ⟨next, rfl⟩⟩⟩)
  | name :: pending =>
    let looked := look library { s.here with pending := pending } name
    match result : looked.outcome with
    | .error fault => .inr (some ⟨⟨s.entries ++ looked.entries, .error fault⟩,
        s.reached.imp fun _ rounds => ⟨_, rounds, .inr ⟨_, ⟨_, _, next, result⟩, rfl⟩⟩⟩)
    | .ok further => .inl ⟨s.entries ++ looked.entries, further,
        s.reached.elim fun _ rounds => ⟨_, rounds.next ⟨_, _, next, result⟩⟩⟩

/-- The end that a stage leads to, if it leads to one. -/
def Stage.end? {library : Library} {g : Gathering} (s : Stage library g) :
    Option (End library g) :=
  Id.run (repeatM Stage.step s)

/-- All modules that the pending names lead to, with those loaded before. -/
def finish (library : Library) (g : Gathering) : Journaled (List (Value × Module)) :=
  let first : Stage library g := ⟨[], g, 0, .start⟩
  match first.end? with
  | some ended => ended.val
  | none => Journaled.fail .endless

end Gathering

/-- The modules in a named file, which was named so many times before. -/
def Files.namedAt (f : Files) (file : String × Nat) : Except Fault (List Module) := do
  return (← f.modulesAt (.ofString file.1)).map (Module.inReading (.named file.1 file.2))

/-- The modules of a run. -/
structure Loaded where
  modules : List (Value × Module)
  /-- The names of the modules in the named files, each once. -/
  requested : List Value

namespace Loaded

def graph (l : Loaded) : Except Fault Graph :=
  Graph.ofModules (Entries.values l.modules)

/-- Takes up a module from a named file, in place of one of the same name. -/
def add (path : String) (l : Loaded) (m : Module) : Journaled Loaded := do
  let shown ← m.name.say
  Journaled.note .debug ("Loaded module " ++ shown ++ " from " ++ path)
  if m.name.key?.isNone then Journaled.fail (.mishap .wrongKind)
  else
    let isNew := !l.requested.any m.name.same
    return ⟨Entries.put l.modules m.name m,
      if isNew then l.requested ++ [m.name] else l.requested⟩

/-- Takes up the modules of a named file. -/
def addFile (f : Files) (l : Loaded) (file : String × Nat) : Journaled Loaded := do
  let found ← f.namedAt file
  found.foldlM (add file.1) l

/-- Paths in order, each with the number of times that it stands before. -/
def turns (before : List String) : List String → List (String × Nat)
  | [] => []
  | path :: rest => (path, before.count path) :: turns (path :: before) rest

def withStandard (modules : List (Value × Module)) : List (Value × Module) :=
  Standard.modules.foldl (fun done (name, m) =>
    if Entries.has done name then done else Entries.put done name m) modules

end Loaded

/-- The modules of named files and all that they import, with directories to search for them. -/
def Files.load (f : Files) (paths dirs : List String) : Journaled Loaded := Journaled.voiced do
  let named ← (Loaded.turns [] paths).foldlM (Loaded.addFile f) ⟨[], []⟩
  let imports := (Entries.values named.modules).flatMap Module.imports
  let library := Library.ofFiles f (dirs.map Path.ofString)
  let gathering := ⟨named.modules, imports.reverse, []⟩
  let modules := Loaded.withStandard (← Gathering.finish library gathering)
  Journaled.note .info
    ("Loaded " ++ toString named.requested.length ++ " requested module(s), "
      ++ toString modules.length ++ " in total")
  return ⟨modules, named.requested⟩

end AdlTables
