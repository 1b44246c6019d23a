import AdlTables.Files.Writing

/-! # What a write leaves

A write makes directories, drafts the file at a place that is free, and moves the draft. Directories
are no files, and a draft that fails is removed from a place where nothing stood, so a write that
fails leaves every file as it was. A write that succeeds changes one file: the one that its path
leads to, which then holds the content.
-/

namespace AdlTables.Files

variable {h : Host} {f f' : Files} {p : Path} {names other here : List String} {entry : FileEntry}
  {content : ByteArray}

/-- The content of the file at a place, if a file stands there. -/
def fileAt? (f : Files) (names : List String) : Option ByteArray :=
  match f.get? names with
  | some (.file content) => some content
  | _ => none

def SameFiles (f f' : Files) : Prop :=
  ∀ names, f'.fileAt? names = f.fileAt? names

def SameFilesBut (place : List String) (f f' : Files) : Prop :=
  ∀ names, names ≠ place → f'.fileAt? names = f.fileAt? names

theorem SameFiles.refl (f : Files) : f.SameFiles f := fun _ => rfl

theorem SameFiles.trans {f'' : Files} (first : f.SameFiles f') (second : f'.SameFiles f'') :
    f.SameFiles f'' :=
  fun names => (second names).trans (first names)

private theorem lookup_entry {place : List String} {old : FileEntry}
    {rest : List (List String × FileEntry)} :
    ((place, old) :: rest).lookup other =
      if other = place then some old else rest.lookup other := by
  by_cases same : other = place
  · simp [same]
  · have unlike : (other == place) = false := by simpa using same
    simp [List.lookup_cons, unlike, same]

private theorem lookup_replace {entries : List (List String × FileEntry)} :
    (entries.map fun e => if e.1 == names then (names, entry) else e).lookup other =
      if other = names then (if entries.any (·.1 == names) then some entry else none)
      else entries.lookup other := by
  induction entries with
  | nil => simp
  | cons e rest ih =>
    obtain ⟨place, old⟩ := e
    rw [List.map_cons, List.any_cons, lookup_entry]
    by_cases here : place = names
    · subst here
      simp only [beq_self_eq_true, ↓reduceIte, Bool.true_or, lookup_entry, ih]
      split <;> rfl
    · have unlike : (place == names) = false := by simpa using here
      simp only [unlike, Bool.false_eq_true, ↓reduceIte, Bool.false_or, lookup_entry, ih]
      by_cases same : other = place
      · subst same
        simp [here]
      · simp [same]

private theorem lookup_others {entries : List (List String × FileEntry)} :
    (entries.filter fun e => e.1 != names).lookup other =
      if other = names then none else entries.lookup other := by
  induction entries with
  | nil => simp
  | cons e rest ih =>
    obtain ⟨place, old⟩ := e
    rw [List.filter_cons, lookup_entry]
    by_cases here : place = names
    · subst here
      simp only [bne_self_eq_false, Bool.false_eq_true, ↓reduceIte, ih]
      split <;> rfl
    · have unlike : (place != names) = true := by simpa using here
      simp only [unlike, ↓reduceIte, lookup_entry, ih]
      by_cases same : other = place
      · subst same
        simp [here]
      · simp [same]

private theorem get?_set (inside : names ≠ []) :
    (f.set names entry).get? other = if other = names then some entry else f.get? other := by
  cases other with
  | nil => simp [get?, inside.symm]
  | cons name rest =>
    simp only [get?, List.isEmpty_cons, Bool.false_eq_true, ↓reduceIte, set]
    split
    · rename_i present
      rw [lookup_replace, present, if_pos rfl]
    · rename_i absent
      have missing : f.entries.lookup names = none := by
        refine List.lookup_eq_none_iff.2 fun e member => ?_
        have unlike := List.any_eq_false.1 (Bool.not_eq_true _ ▸ absent) e member
        have apart : e.1 ≠ names := by simpa using unlike
        simpa using Ne.symm apart
      rw [List.lookup_append, lookup_entry]
      by_cases same : name :: rest = names
      · subst same
        simp [missing]
      · simp [same]

private theorem get?_remove (inside : names ≠ []) :
    (f.remove names).get? other = if other = names then none else f.get? other := by
  cases other with
  | nil => simp [get?, inside.symm]
  | cons name rest => exact lookup_others

/-- A file that a path leads to stands there. -/
theorem get?_of_follow_file {steps : List String}
    (led : f.follow here steps = .file names content) :
    names ≠ [] ∧ f.get? names = some (.file content) := by
  induction steps generalizing here with
  | nil => cases led
  | cons name rest ih =>
    rw [follow] at led
    split at led
    · exact ih led
    split at led
    · cases led
    split at led
    · exact ih led
    · rename_i stands
      split at led
      · obtain ⟨rfl, rfl⟩ : here ++ [name] = names ∧ _ = content := by simpa using led
        exact ⟨by simp, stands⟩
      · cases led
    · split at led <;> cases led

/-- Nothing stands where a path leads to a free place. -/
theorem get?_of_follow_free {steps : List String} (led : f.follow here steps = .free names) :
    names ≠ [] ∧ f.get? names = none := by
  induction steps generalizing here with
  | nil => cases led
  | cons name rest ih =>
    rw [follow] at led
    split at led
    · exact ih led
    split at led
    · cases led
    split at led
    · exact ih led
    · split at led <;> cases led
    · rename_i missing
      split at led
      · obtain rfl : here ++ [name] = names := by simpa using led
        exact ⟨by simp, missing⟩
      · cases led

private theorem get?_of_locate_file (led : f.locate p = .file names content) :
    names ≠ [] ∧ f.get? names = some (.file content) := by
  rw [locate] at led
  split at led
  · cases led
  · exact get?_of_follow_file led

private theorem get?_of_locate_free (led : f.locate p = .free names) :
    names ≠ [] ∧ f.get? names = none := by
  rw [locate] at led
  split at led
  · cases led
  · exact get?_of_follow_free led

/-- A path leads through the same directories to the same place where all directories stay and a
file comes to stand at that place. -/
theorem follow_file_of_directories {steps : List String} (led : f.follow here steps = .free names ∨
      ∃ old, f.follow here steps = .file names old)
    (kept : ∀ place, f.get? place = some .directory → f'.get? place = some .directory)
    (put : f'.get? names = some (.file content)) :
    f'.follow here steps = .file names content := by
  -- what stands at the last name alone may differ, so the walk takes the same turns until then
  induction steps generalizing here with
  | nil => simp [follow] at led
  | cons name rest ih =>
    simp only [follow] at led ⊢
    split
    · rename_i up
      exact ih (by simpa [up] using led)
    rename_i notUp
    simp only [notUp, ↓reduceIte] at led
    split
    · rename_i long
      simp [long] at led
    rename_i fits
    simp only [fits, ↓reduceIte] at led
    match stands : f.get? (here ++ [name]) with
    | some .directory =>
      rw [kept _ stands]
      exact ih (by simpa [stands] using led)
    | some (.file old) =>
      cases rest with
      | nil =>
        obtain rfl : here ++ [name] = names := by simpa [stands] using led
        simp [put]
      | cons _ _ => simp [stands] at led
    | none =>
      cases rest with
      | nil =>
        obtain rfl : here ++ [name] = names := by simpa [stands] using led
        simp [put]
      | cons _ _ => simp [stands] at led

private theorem locate_file_of_directories (current : f'.current = f.current)
    (led : f.locate p = .free names ∨ ∃ old, f.locate p = .file names old)
    (kept : ∀ place, f.get? place = some .directory → f'.get? place = some .directory)
    (put : f'.get? names = some (.file content)) : f'.locate p = .file names content := by
  rw [locate] at led ⊢
  split
  · rename_i long
    simp [long] at led
  · rename_i fits
    simp only [fits, ↓reduceIte] at led
    rw [current]
    exact follow_file_of_directories led kept put

/-- Files with a draft at a place that was free. -/
structure Drafted (f f' : Files) (draft : List String) (content : ByteArray) : Prop where
  inside : draft ≠ []
  free : f.get? draft = none
  current : f'.current = f.current
  get? (place : List String) :
    f'.get? place = if place = draft then some (.file content) else f.get? place

section

variable {draft : List String} {old : ByteArray}

theorem Drafted.set (drafted : Drafted f f' draft old) :
    Drafted f (f'.set draft (.file content)) draft content := by
  refine ⟨drafted.inside, drafted.free, ?_, fun place => ?_⟩
  · rw [← drafted.current, Files.set]
    split <;> rfl
  · rw [get?_set drafted.inside, drafted.get?]
    split <;> rfl

/-- Without the draft the files are as they were. -/
theorem Drafted.remove (drafted : Drafted f f' draft old) : f.SameFiles (f'.remove draft) := by
  intro place
  rw [fileAt?, get?_remove drafted.inside, drafted.get?]
  by_cases same : place = draft
  · simp [same, fileAt?, drafted.free]
  · simp [same, fileAt?]

/-- A draft that is moved is the one file that has changed, and the path leads to it. -/
theorem Drafted.move (drafted : Drafted f f' draft content)
    (led : f'.locate p = .free names ∨ ∃ old, f'.locate p = .file names old) :
    (f'.move draft names).locate p = .file names content ∧
      f.SameFilesBut names (f'.move draft names) := by
  have inside : names ≠ [] := by
    obtain free | ⟨_, file⟩ := led
    · exact (get?_of_locate_free free).1
    · exact (get?_of_locate_file file).1
  have noDirectory : f'.get? names ≠ some .directory := by
    obtain free | ⟨_, file⟩ := led
    · simp [(get?_of_locate_free free).2]
    · simp [(get?_of_locate_file file).2]
  have moved : f'.move draft names = (f'.remove draft).set names (.file content) := by
    rw [Files.move, drafted.get?, if_pos rfl]
  -- the draft may lie where it is moved to, so this place comes first
  have stands (place : List String) : (f'.move draft names).get? place =
      if place = names then some (.file content)
      else if place = draft then none else f.get? place := by
    rw [moved, get?_set inside, get?_remove drafted.inside, drafted.get?]
    split
    · rfl
    · split <;> rfl
  constructor
  · refine locate_file_of_directories ?_ led (fun place directory => ?_)
      (by rw [stands, if_pos rfl])
    · rw [moved, Files.set]
      split <;> rfl
    · have apart : place ≠ names := fun same => noDirectory (same ▸ directory)
      rw [drafted.get?] at directory
      rw [stands, if_neg apart]
      split at directory
      · cases directory
      · rename_i noDraft
        rw [if_neg noDraft, directory]
  · intro place apart
    rw [fileAt?, stands, if_neg apart]
    by_cases same : place = draft
    · simp [same, fileAt?, drafted.free]
    · simp [same, fileAt?]

/-- Moving a draft to where a path leads puts it there, or fails and leaves it. -/
theorem Drafted.moveDraft (drafted : Drafted f f' draft content) :
    (∃ place, (f'.moveDraft draft p).failure = none ∧
        (f'.moveDraft draft p).files.locate p = .file place content ∧
          f.SameFilesBut place (f'.moveDraft draft p).files) ∨
      (f'.moveDraft draft p).failure ≠ none ∧
        Drafted f (f'.moveDraft draft p).files draft content := by
  rw [Files.moveDraft]
  split
  · rename_i names old led
    obtain ⟨located, others⟩ := drafted.move (.inr ⟨old, led⟩)
    exact .inl ⟨names, rfl, located, others⟩
  · rename_i names led
    obtain ⟨located, others⟩ := drafted.move (.inl led)
    exact .inl ⟨names, rfl, located, others⟩
  all_goals exact .inr ⟨by simp, drafted⟩

/-- A draft is finished in its place, or finishing it fails and it is still a draft. -/
theorem Drafted.finishDraft (drafted : Drafted f f' draft old) (h : Host) (p : Path)
    (content : ByteArray) :
    (∃ place, (f'.finishDraft h draft p content).failure = none ∧
        (f'.finishDraft h draft p content).files.locate p = .file place content ∧
          f.SameFilesBut place (f'.finishDraft h draft p content).files) ∨
      (f'.finishDraft h draft p content).failure ≠ none ∧
        ∃ rest, Drafted f (f'.finishDraft h draft p content).files draft rest := by
  rw [Files.finishDraft, fillDraft]
  cases h.refusal? .fillDraft with
  | some _ => exact .inr ⟨by simp [Attempt.andThen], _, drafted.set⟩
  | none =>
    simp only [Attempt.andThen, Host.attempt]
    cases h.refusal? .shareDraft with
    | some _ => exact .inr ⟨by simp, _, drafted.set⟩
    | none =>
      cases h.refusal? .moveDraft with
      | some _ => exact .inr ⟨by simp, _, drafted.set⟩
      | none => exact drafted.set.moveDraft.imp_right (.imp_right fun still => ⟨_, still⟩)

end

end AdlTables.Files
