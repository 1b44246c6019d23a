import AdlTables.Document
import AdlTables.Files

/-! # Libraries of modules

Where modules come from: files that are named, and files that are found for a module's name in
search directories. `Library` is the second as a function, with the modules that it can ever give;
files are finitely many, so `Library.ofFiles` knows them.
-/

namespace AdlTables

def Files.modulesAt (f : Files) (p : Path) : Except Fault (List Module) :=
  match f.read p with
  | .missing => Fault.raise (.fileNotFound p.display)
  | .failed (.obstacle o) => Fault.raise (.unreadableFile p.display o)
  | .failed (.mishap m) => Fault.breakDown m
  | .bytes content => match Document.ofContent (Document.isJson p) content with
    | .error (.obstacle o) => Fault.raise (.unreadableFile p.display o)
    | .error (.mishap m) => Fault.breakDown m
    | .ok v => match Document.modules? v with
      | .error fault => .error fault
      | .ok none => Fault.raise (.noModuleObject p.display)
      | .ok (some found) => .ok found

/-- The suffixes of files that hold modules, the first to look for first. -/
def moduleSuffixes : List String := [".json", ".yaml", ".yml"]

/-- The paths at which a directory may hold a module's file: the name's parts as directories, or the
whole name in one. A path without a last name has no suffix to replace. -/
def candidates (dir : Path) (name : String) : List (Option Path) :=
  moduleSuffixes.flatMap fun suffix =>
    let nested := (Text.splitText '.' name).foldl (fun p part => p.join (.ofString part)) dir
    [nested.withSuffix? suffix, some (dir.join (.ofString (name ++ suffix)))]

namespace Files

def firstFile (f : Files) : List (Option Path) → Except Fault (Option Path)
  | [] => .ok none
  | none :: _ => Fault.breakDown .badValue
  | some p :: rest => do
    if ← f.isFile p then return some p else f.firstFile rest

/-- The file that search directories hold for a module's name. -/
def find (f : Files) (dirs : List Path) (name : Value) : Except Fault (Option Path) :=
  if dirs.isEmpty then .ok none
  else match name with
    | .text s => f.firstFile (dirs.flatMap fun dir => candidates dir s)
    | .bytes _ => Fault.breakDown .wrongKind
    | _ => Fault.breakDown .noMember

end Files

/-- A search for modules by their names, which are texts. -/
structure Library where
  /-- The directories of the search, as they are shown. -/
  places : List String
  /-- The file for a name, with the modules that it holds. -/
  search : Value → Except Fault (Option (Path × List Module))
  /-- All modules that a search can give. -/
  stock : List Module
  stocked : ∀ {name place found}, search name = .ok (some (place, found)) → found.Sublist stock
  isText : ∀ {name file}, search name = .ok (some file) → name.text?.isSome
  /-- A file holds the same modules for all names that it is found for. -/
  found_eq : ∀ {name name' place found found'}, search name = .ok (some (place, found)) →
    search name' = .ok (some (place, found')) → found = found'

namespace Files

/-- The modules in the content of a file, read one way. -/
def modulesIn (json : Bool) (content : ByteArray) : List Module :=
  match Document.ofContent json content with
  | .ok v => match Document.modules? v with
    | .ok (some found) => found
    | _ => []
  | .error _ => []

/-- The modules in all files, each file read in both ways. -/
def holdings (f : Files) : List Module :=
  f.entries.flatMap fun entry => match entry.2 with
    | .directory => []
    | .file content => modulesIn true content ++ modulesIn false content

def search (f : Files) (dirs : List Path) (name : Value) :
    Except Fault (Option (Path × List Module)) := do
  match ← f.find dirs name with
  | none => return none
  | some p => return some (p, ← f.modulesAt p)

theorem follow_file_mem {f : Files} {names : List String} {content : ByteArray} :
    ∀ {steps here : List String}, f.follow here steps = .file names content →
      (names, FileEntry.file content) ∈ f.entries := by
  intro steps
  induction steps with
  | nil => intro here found; simp [follow] at found
  | cons step rest ih =>
    intro here found
    simp only [follow] at found
    split at found
    · exact ih found
    · split at found
      · simp at found
      · split at found
        · exact ih found
        · rename_i entry
          split at found
          · simp only [Place.file.injEq] at found
            obtain ⟨rfl, rfl⟩ := found
            have nonempty : (here ++ [step]).isEmpty = false := by simp
            rw [get?, nonempty] at entry
            simpa using List.lookup_eq_some_iff.1 entry |> fun ⟨_, _, h, _⟩ => h ▸ by simp
          · simp at found
        · split at found <;> simp at found

theorem read_bytes_mem {f : Files} {p : Path} {content : ByteArray}
    (found : f.read p = .bytes content) : ∃ names, (names, FileEntry.file content) ∈ f.entries := by
  rw [read] at found
  split at found
  · simp at found
  · split at found <;> simp only [Content.bytes.injEq, reduceCtorEq] at found
    rename_i located
    subst found
    rw [locate] at located
    split at located
    · simp at located
    · exact ⟨_, follow_file_mem located⟩

theorem modulesIn_sublist {f : Files} {names : List String} {content : ByteArray}
    (stands : (names, FileEntry.file content) ∈ f.entries) (json : Bool) :
    (modulesIn json content).Sublist f.holdings := by
  obtain ⟨before, after, eq⟩ := List.append_of_mem stands
  rw [holdings, eq, List.flatMap_append, List.flatMap_cons]
  refine List.Sublist.trans ?_ (List.sublist_append_right ..)
  refine List.Sublist.trans ?_ (List.sublist_append_left ..)
  cases json with
  | true => exact List.sublist_append_left ..
  | false => exact List.sublist_append_right ..

theorem modulesAt_sublist {f : Files} {p : Path} {found : List Module}
    (success : f.modulesAt p = .ok found) : found.Sublist f.holdings := by
  rw [modulesAt] at success
  split at success <;> try cases success
  rename_i content bytes
  obtain ⟨names, stands⟩ := read_bytes_mem bytes
  refine List.Sublist.trans ?_ (modulesIn_sublist stands (Document.isJson p))
  split at success <;> try cases success
  rename_i v document
  split at success <;> try cases success
  rename_i modules
  simp [modulesIn, document, modules]

theorem text_of_find {f : Files} {dirs : List Path} {name : Value} {p : Path}
    (found : f.find dirs name = .ok (some p)) : name.text?.isSome := by
  unfold find at found
  split at found
  · simp at found
  · split at found
    · rfl
    · simp [Fault.breakDown] at found
    · simp [Fault.breakDown] at found

theorem search_eq_ok {f : Files} {dirs : List Path} {name : Value} {place : Path}
    {found : List Module} : f.search dirs name = .ok (some (place, found)) ↔
      f.find dirs name = .ok (some place) ∧ f.modulesAt place = .ok found := by
  rw [search]
  cases located : f.find dirs name with
  | error fault => simp [bind, Except.bind]
  | ok place? =>
    cases place? with
    | none => simp [bind, Except.bind, pure, Except.pure]
    | some p =>
      cases read : f.modulesAt p with
      | error fault =>
        simp only [bind, Except.bind, read, reduceCtorEq, false_iff, not_and, Except.ok.injEq,
          Option.some.injEq]
        rintro rfl atPlace
        simp [read] at atPlace
      | ok ms =>
        simp only [bind, Except.bind, read, pure, Except.pure, Except.ok.injEq, Option.some.injEq,
          Prod.mk.injEq]
        constructor
        · rintro ⟨rfl, rfl⟩
          exact ⟨rfl, read⟩
        · rintro ⟨rfl, atPlace⟩
          exact ⟨rfl, Except.ok.inj (read.symm.trans atPlace)⟩

end Files

def Library.ofFiles (f : Files) (dirs : List Path) : Library where
  places := dirs.map Path.display
  search := f.search dirs
  stock := f.holdings
  stocked success := Files.modulesAt_sublist (Files.search_eq_ok.1 success).2
  isText success := Files.text_of_find (Files.search_eq_ok.1 success).1
  found_eq first second :=
    Except.ok.inj ((Files.search_eq_ok.1 first).2.symm.trans (Files.search_eq_ok.1 second).2)

end AdlTables
