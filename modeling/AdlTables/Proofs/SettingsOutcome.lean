import AdlTables.Proofs.Precedence

/-! # What the way to settings comes to

A run gets its settings, or it ends after everything that is wrong with them has been written down,
or it breaks down. It breaks down with its file, if the path is too long to be looked up, the bytes
are no text or the reader of documents fails, and with a list of paths that is no list of texts. All
other files that are of no use count as no file.

* `Settings.paths_eq_mishap` -- how a list of paths breaks down
* `Settings.ofValues_cases` -- what values come to
* `Settings.gives_or_breaks` -- what a file comes to
* `Settings.load_valid_or_reported` -- what the way to settings comes to
-/

namespace AdlTables

namespace Journaled

variable {α β : Type} {x : Journaled α} {f : α → Journaled β} {entries : List Entry}

private theorem infix_bind_left (written : entries <:+: x.entries) :
    entries <:+: (x >>= f).entries := by
  obtain ⟨before, outcome⟩ := x
  cases outcome with
  | error e => exact written
  | ok a => exact written.trans (List.prefix_append before _).isInfix

private theorem infix_bind_right {a : α} (ends : x.outcome = .ok a)
    (written : entries <:+: (f a).entries) : entries <:+: (x >>= f).entries := by
  obtain ⟨before, outcome⟩ := x
  obtain rfl := ends
  exact written.trans (List.suffix_append before _).isInfix

end Journaled

namespace Files

variable {f : Files} {p : Path} {fault : Fault}

private theorem isFile_eq_true : f.isFile p = .ok true ↔ ∃ content, f.read p = .bytes content := by
  rw [isFile, read]
  cases p.hasNull with
  | true => simp
  | false => cases f.locate p <;> simp [Fault.breakDown]

private theorem isFile_eq_error :
    f.isFile p = .error fault ↔
      p.hasNull = false ∧ f.locate p = .tooLong ∧ fault = .mishap .refused := by
  rw [isFile]
  cases p.hasNull with
  | true => simp
  | false => cases f.locate p <;> simp [Fault.breakDown, eq_comm]

end Files

namespace Settings

variable {v : Value} {m : Mishap}

/-- Whether a value is a path: a text that is not blank. -/
def IsPath (v : Value) : Prop :=
  ∃ s, v = .text s ∧ ¬ Text.isBlankText s

/-- How items break a list of paths down, the first of them with the given index: the first one that
is no path is no text. -/
def ItemsBreak (index : Nat) (items : List Value) (m : Mishap) : Prop :=
  ∃ front item back, items = front ++ item :: back ∧ (∀ w ∈ front, IsPath w) ∧
    item.text? = none ∧ m = .pathNotText (index + front.length) item.kindName

private theorem not_itemsBreak_nil {index : Nat} : ¬ ItemsBreak index [] m := by
  rintro ⟨front, item, back, split, -⟩
  cases List.append_ne_nil_of_right_ne_nil front (List.cons_ne_nil item back) split.symm

private theorem itemsBreak_cons {index : Nat} {rest : List Value} :
    ItemsBreak index (v :: rest) m ↔
      v.text? = none ∧ m = .pathNotText index v.kindName ∨
        IsPath v ∧ ItemsBreak (index + 1) rest m := by
  have place (front : List Value) :
      index + (v :: front).length = index + 1 + front.length := by
    rw [List.length_cons]
    omega
  constructor
  · rintro ⟨_ | ⟨w, front⟩, item, back, split, paths, noText, rfl⟩
    · obtain ⟨rfl, rfl⟩ := List.cons.inj split
      exact .inl ⟨noText, rfl⟩
    · obtain ⟨rfl, rfl⟩ := List.cons.inj split
      obtain ⟨first, others⟩ := List.forall_mem_cons.1 paths
      exact .inr ⟨first, front, item, back, rfl, others, noText, by rw [place]⟩
  · rintro (⟨noText, rfl⟩ | ⟨first, front, item, back, rfl, others, noText, rfl⟩)
    · exact ⟨[], v, rest, rfl, List.forall_mem_nil _, noText, rfl⟩
    · have paths := List.forall_mem_cons.2 ⟨first, others⟩
      exact ⟨v :: front, item, back, rfl, paths, noText, by rw [place]⟩

private theorem pathItems_eq_mishap {index : Nat} {items : List Value} :
    pathItems index items = .error (.mishap m) ↔ ItemsBreak index items m := by
  fun_induction pathItems index items with
  | case1 =>
    refine iff_of_false (fun broken => ?_) not_itemsBreak_nil
    cases broken
  | case2 index s rest blank =>
    simp [itemsBreak_cons, IsPath, blank, Value.text?]
  | case3 index s rest notBlank ih =>
    have later : (pathItems (index + 1) rest >>= fun ss => .ok (Text.trim s :: ss)) =
        .error (.mishap m) ↔ pathItems (index + 1) rest = .error (.mishap m) := by
      cases pathItems (index + 1) rest <;> simp
    have isPath : IsPath (.text s) := ⟨s, rfl, notBlank⟩
    refine later.trans (ih.trans ?_)
    simp [itemsBreak_cons, isPath, Value.text?]
  | case4 index v rest noText =>
    have noPath : ¬ IsPath v := by
      rintro ⟨s, isText, -⟩
      exact noText s isText
    have isNone : v.text? = none := by
      cases v with
      | text s => exact absurd rfl (noText s)
      | _ => rfl
    simp [itemsBreak_cons, noPath, isNone, eq_comm]

/-- How a value that lists paths breaks down: it is neither a list nor one text nor null, or it is a
list whose items break it down. -/
inductive PathsBreak : Value → Mishap → Prop
  | noList {v : Value} : v ≠ .null → v.text? = none → (∀ items, v ≠ .list items) →
    PathsBreak v .pathsNotList
  | items {items : List Value} {m : Mishap} : ItemsBreak 0 items m → PathsBreak (.list items) m

private theorem paths_eq_mishap : paths v = .error (.mishap m) ↔ PathsBreak v.bare m := by
  rw [paths]
  cases v.bare with
  | null =>
    constructor
    · intro broken
      cases broken
    · rintro ⟨notNull, -, -⟩
      exact absurd rfl notNull
  | text s =>
    constructor
    · intro broken
      simp only [pathItems] at broken
      split at broken <;> cases broken
    · rintro ⟨-, notText, -⟩
      cases notText
  | list items =>
    refine pathItems_eq_mishap.trans ⟨.items, ?_⟩
    rintro (⟨-, -, noList⟩ | breaks)
    · exact absurd rfl (noList items)
    · exact breaks
  | _ =>
    constructor
    · intro broken
      cases broken
      exact .noList nofun rfl nofun
    · rintro ⟨⟩
      rfl

variable {values : List (Value × Value)} {name : String}

def flaws (values : List (Value × Value)) : List (String × Option Flaw) := [
  ("adl_files", flaw? (setting values "adl_files" [] paths)),
  ("search_dirs", flaw? (setting values "search_dirs" [] paths)),
  ("outfile", flaw? (setting values "outfile" standardOutfile someText)),
  ("output_dir", flaw? (setting values "output_dir" none optionalText)),
  ("dialect", flaw? (setting values "dialect" Dialect.postgres dialectOf))]

private theorem flaw?_setting {α : Type} {default : α} {read : Value → Except Flaw α}
    {flaw : Flaw} : flaw? (setting values name default read) = some flaw ↔
      ∃ v, Value.find? values name = some v ∧ read v = .error flaw := by
  rw [setting]
  cases Value.find? values name with
  | none => simp [flaw?]
  | some v =>
    cases given : read v <;> simp [flaw?, given]

private theorem text_ne_mishap : text v ≠ .error (.mishap m) := by
  rw [text]
  cases v.readText <;> simp [Except.mapError]

private theorem someText_ne_mishap : someText v ≠ .error (.mishap m) := by
  intro broken
  obtain inText | ⟨s, -, later⟩ := Outcome.bind_eq_error.1 broken
  · exact text_ne_mishap inText
  · split at later <;> cases later

private theorem optionalText_ne_mishap : optionalText v ≠ .error (.mishap m) := by
  intro broken
  unfold optionalText at broken
  split at broken
  · cases broken
  · have inText : text v = .error (.mishap m) := by
      cases given : text v <;> simp_all [Except.map]
    exact text_ne_mishap inText

private theorem dialectOf_ne_mishap : dialectOf v ≠ .error (.mishap m) := by
  rw [dialectOf]
  split <;> simp

def ListBreaks (values : List (Value × Value)) (m : Mishap) : Prop :=
  ∃ name ∈ ["adl_files", "search_dirs"], ∃ v, Value.find? values name = some v ∧
    PathsBreak v.bare m

/-- Only settings that list paths break down. -/
theorem mishap_mem_flaws :
    (∃ name, (name, some (.mishap m)) ∈ flaws values) ↔ ListBreaks values m := by
  simp only [flaws, List.mem_cons, Prod.mk.injEq, List.not_mem_nil, or_false, ListBreaks,
    eq_comm (a := some (Flaw.mishap m)), flaw?_setting, paths_eq_mishap, someText_ne_mishap,
    optionalText_ne_mishap, dialectOf_ne_mishap, and_false, exists_false, exists_eq_or_imp,
    exists_or]
  simp

private theorem firstMishap?_eq_some {flaws : List (String × Option Flaw)}
    (first : firstMishap? flaws = some m) : ∃ name, (name, some (.mishap m)) ∈ flaws := by
  obtain ⟨⟨name, flaw⟩, member, isMishap⟩ := List.exists_of_findSome?_eq_some first
  obtain _ | _ | m' := flaw
  · cases isMishap
  · cases isMishap
  · obtain rfl : m' = m := Option.some.inj isMishap
    exact ⟨name, member⟩

private theorem firstMishap?_eq_none {flaws : List (String × Option Flaw)}
    (noMishap : firstMishap? flaws = none) : (name, some (.mishap m)) ∉ flaws := by
  intro member
  cases List.findSome?_eq_none_iff.1 noMishap _ member

/-- Whether it is written down what is wrong with settings: something is, and of each complaint
there are the lines that say where and what it is. -/
def Reported (values : List (Value × Value)) (entries : List Entry) : Prop :=
  (∃ name text, (name, some (.complaint text)) ∈ flaws values) ∧
    ∀ name text, (name, some (.complaint text)) ∈ flaws values →
      (complaintLines name text).map Entry.line <:+: entries

/-- The lines of a complaint are among those that are printed. -/
theorem complaintLines_within {flaws : List (String × Option Flaw)} {text : String}
    (member : (name, some (.complaint text)) ∈ flaws) :
    complaintLines name text <:+: flawLines flaws := by
  refine List.IsInfix.trans ?_ (List.infix_append _ _ _)
  exact List.infix_of_mem_flatten (List.mem_map.2 ⟨_, member, rfl⟩)

private theorem Reads.not_listBreaks {s : Settings} (reads : Reads values s) :
    ¬ ListBreaks values m := by
  rintro ⟨name, isList, v, found, breaks⟩
  have broken := paths_eq_mishap.2 breaks
  obtain rfl | rfl : name = "adl_files" ∨ name = "search_dirs" := by simpa using isList
  · have made := reads.adlFiles
    rw [setting_of_find found, broken] at made
    cases made
  · have made := reads.searchDirs
    rw [setting_of_find found, broken] at made
    cases made

/-- What is written down of settings that cannot be made, where nothing breaks down. -/
def complain (flaws : List (String × Option Flaw)) : Journaled Settings := do
  Journaled.note .critical
    "Configuration validation failed! Please check your config file or arguments."
  Journaled.print (flawLines flaws)
  Journaled.fail (.exit ⟨1, Nat.one_ne_zero⟩)

private theorem suffix_complain (flaws : List (String × Option Flaw)) :
    (flawLines flaws).map Entry.line <:+ (complain flaws).entries := by
  have entries : (complain flaws).entries = [.message .critical
      "Configuration validation failed! Please check your config file or arguments." false] ++
        (flawLines flaws).map Entry.line := by
    simp [complain, Journaled.note, Journaled.print, Journaled.fail, bind]
  rw [entries]
  exact List.suffix_append _ _

/-- Values are settings unless one of them has a flaw. -/
theorem ofValues_or_flaw (values : List (Value × Value)) :
    (∃ s, (ofValues values).outcome = .ok s) ∨
      ((∃ name flaw, (name, some flaw) ∈ flaws values) ∧
        ofValues values = match firstMishap? (flaws values) with
          | some m => Journaled.fail (.mishap m)
          | none => complain (flaws values)) := by
  unfold ofValues
  dsimp only
  split
  · left
    simp [settleOutput_outcome]
  · rename_i invalid
    refine .inr ⟨?_, rfl⟩
    by_contra noFlaw
    have made {α : Type} {x : Except Flaw α}
        (listed : ∃ name, (name, flaw? x) ∈ flaws values) : ∃ a, x = .ok a := by
      obtain ⟨name, member⟩ := listed
      cases x with
      | ok a => exact ⟨a, rfl⟩
      | error flaw => exact absurd ⟨name, flaw, member⟩ noFlaw
    obtain ⟨adlFiles, first⟩ := made ⟨_, .head _⟩
    obtain ⟨searchDirs, second⟩ := made ⟨_, .tail _ (.head _)⟩
    obtain ⟨outfile, third⟩ := made ⟨_, .tail _ (.tail _ (.head _))⟩
    obtain ⟨outputDir, fourth⟩ := made ⟨_, .tail _ (.tail _ (.tail _ (.head _)))⟩
    obtain ⟨dialect, fifth⟩ := made ⟨_, .tail _ (.tail _ (.tail _ (.tail _ (.head _))))⟩
    exact invalid _ _ _ _ _ first second third fourth fifth

/-- Values are settings, or break down, or else it is reported what is wrong with them. -/
theorem ofValues_cases (values : List (Value × Value)) :
    (∃ s, (ofValues values).outcome = .ok s ∧ Reads values s) ∨
      (∃ m, (ofValues values).outcome = .error (.mishap m) ∧ ListBreaks values m) ∨
      ((ofValues values).outcome = .error (.exit ⟨1, Nat.one_ne_zero⟩) ∧
        (∀ m, ¬ ListBreaks values m) ∧ Reported values (ofValues values).entries) := by
  obtain ⟨s, valid⟩ | ⟨⟨name, flaw, member⟩, ends⟩ := ofValues_or_flaw values
  · exact .inl ⟨s, valid, reads_of_ofValues valid⟩
  · right
    cases first : firstMishap? (flaws values) with
    | some m =>
      rw [first] at ends
      rw [ends]
      exact .inl ⟨m, rfl, mishap_mem_flaws.1 (firstMishap?_eq_some first)⟩
    | none =>
      rw [first] at ends
      rw [ends]
      refine .inr ⟨rfl, fun m breaks => ?_, ?_, fun name text complaint => ?_⟩
      · obtain ⟨name, member⟩ := mishap_mem_flaws.2 breaks
        exact firstMishap?_eq_none first member
      · cases flaw with
        | complaint text => exact ⟨name, text, member⟩
        | mishap m => exact absurd member (firstMishap?_eq_none first)
      · exact ((complaintLines_within complaint).map Entry.line).trans
          (suffix_complain (flaws values)).isInfix

variable {f : Files} {wording : Wording} {p : Path}

/-- The file of settings at a path, if there is to be one. -/
def at? (path : Option String) : Option Path :=
  (path.filter (· ≠ "")).map .ofString

/-- What a file of settings gives. No file gives nothing, nor does one that is not there, whose text
is malformed, or that holds no mapping. -/
inductive Gives (f : Files) : Option Path → List (Value × Value) → Prop
  | unnamed : Gives f none []
  | missing {p : Path} : f.isFile p = .ok false → Gives f (some p) []
  | malformed {p : Path} {content : ByteArray} {o : Obstacle} : f.read p = .bytes content →
    Document.ofContent false content = .error (.obstacle o) → Gives f (some p) []
  | noMapping {p : Path} {content : ByteArray} {v : Value} : f.read p = .bytes content →
    Document.ofContent false content = .ok v → (∀ entries, v.bare ≠ .mapping entries) →
    Gives f (some p) []
  | mapping {p : Path} {content : ByteArray} {v : Value} {entries : List (Value × Value)} :
    f.read p = .bytes content → Document.ofContent false content = .ok v →
    v.bare = .mapping entries → Gives f (some p) entries

/-- How a file of settings breaks down: its path is too long for the system to say whether it is
there, its bytes encode no text, or the reader of documents breaks down on the text. -/
inductive FileBreaks (f : Files) : Option Path → Mishap → Prop
  | refused {p : Path} : p.hasNull = false → f.locate p = .tooLong →
    FileBreaks f (some p) .refused
  | noText {p : Path} {content : ByteArray} : f.read p = .bytes content →
    String.fromUTF8? content = none → FileBreaks f (some p) .notText
  | reader {p : Path} {content : ByteArray} {s : String} {m : Mishap} :
    f.read p = .bytes content → Document.textOf content = .ok s →
    Yaml.read s = .error (.mishap m) → FileBreaks f (some p) m

/-- The reader of documents breaks down on bytes that are no text, and where it does on a text. -/
theorem fileBreaks_of_ofContent {content : ByteArray} (isRead : f.read p = .bytes content)
    (broken : Document.ofContent false content = .error (.mishap m)) :
    FileBreaks f (some p) m := by
  obtain noText | ⟨s, isText, unread⟩ := Outcome.bind_eq_error.1 broken
  · rw [Document.textOf] at noText
    split at noText
    · cases noText
    · cases noText
      exact .noText isRead ‹_›
  · exact .reader isRead isText unread

/-- The entries of a document that is a mapping. -/
def entriesIn (v : Value) : List (Value × Value) :=
  match v.bare with
  | .mapping entries => entries
  | _ => []

private theorem entriesIn_of_isEmpty (isEmpty : v.isEmpty) : entriesIn v = [] := by
  cases v with
  | mapping entries => exact List.isEmpty_iff.1 isEmpty
  | shared place w =>
    cases w with
    | mapping entries =>
      obtain rfl := List.isEmpty_iff.1 isEmpty
      rfl
    | again p => cases isEmpty
    | shared place' w =>
      rw [entriesIn, Value.bare, Value.tie]
      split_ifs <;> rfl
    | _ => rfl
  | _ => rfl

private theorem outcome_entriesOf (shown : String) (v : Value) :
    (entriesOf shown v).outcome = .ok (entriesIn v) := by
  by_cases isEmpty : v.isEmpty
  · rw [entriesOf, if_pos isEmpty, entriesIn_of_isEmpty isEmpty]
    rfl
  · rw [entriesOf, if_neg isEmpty, entriesIn]
    cases v.bare <;> rfl

def contentGives (content : ByteArray) : Except Fault (List (Value × Value)) :=
  match Document.ofContent false content with
  | .ok v => .ok (entriesIn v)
  | .error (.mishap m) => .error (.mishap m)
  | .error (.obstacle _) => .ok []

private theorem contentGives_of_ok {content : ByteArray}
    (holds : Document.ofContent false content = .ok v) :
    contentGives content = .ok (entriesIn v) := by
  rw [contentGives, holds]

private theorem outcome_content (shown : String) (content : ByteArray) :
    ((document wording shown content).outcome >>= fun v => (entriesOf shown v).outcome) =
      contentGives content := by
  simp only [outcome_entriesOf]
  rw [document, contentGives]
  obtain (_ | _) | _ := Document.ofContent false content <;> rfl

/-- What is given by the file of settings at a path, if there is to be one. -/
def givenBy (f : Files) : Option Path → Except Fault (List (Value × Value))
  | none => .ok []
  | some p => do
    if ← f.isFile p then
      match f.read p with
      | .bytes content => contentGives content
      | _ => .ok []
    else .ok []

private theorem outcome_fromFile (shown : String) :
    (fromFile wording f shown).outcome = givenBy f (some (.ofString shown)) := by
  unfold fromFile
  dsimp only
  rw [Journaled.outcome_bind, Journaled.outcome_monadLift]
  refine congrArg _ (funext fun isThere => ?_)
  cases isThere with
  | false => rfl
  | true =>
    rw [if_pos rfl, if_neg (by decide)]
    cases f.read (.ofString shown) with
    | bytes content =>
      rw [Journaled.outcome_bind]
      exact outcome_content shown content
    | _ => rfl

private theorem outcome_stored (path : Option String) :
    (stored wording f path).outcome = givenBy f (at? path) := by
  cases path with
  | none => rfl
  | some shown =>
    by_cases empty : shown = ""
    · subst empty
      rfl
    · have named : at? (some shown) = some (.ofString shown) := by simp [at?, Option.filter, empty]
      rw [stored, if_neg empty, outcome_fromFile, named]

private theorem givenBy_of_read {content : ByteArray} (isRead : f.read p = .bytes content) :
    givenBy f (some p) = contentGives content := by
  rw [givenBy, Files.isFile_eq_true.2 ⟨content, isRead⟩, Outcome.ok_bind, if_pos rfl, isRead]

variable {p? : Option Path}

private theorem Gives.givenBy {values : List (Value × Value)} (gives : Gives f p? values) :
    givenBy f p? = .ok values := by
  cases gives with
  | unnamed => rfl
  | missing notThere => rw [Settings.givenBy, notThere, Outcome.ok_bind, if_neg Bool.false_ne_true]
  | malformed isRead malformed => rw [givenBy_of_read isRead, contentGives, malformed]
  | noMapping isRead holds noMapping =>
    rw [givenBy_of_read isRead, contentGives_of_ok holds, entriesIn]
    split
    · exact absurd ‹_› (noMapping _)
    · rfl
  | mapping isRead holds isMapping =>
    rw [givenBy_of_read isRead, contentGives_of_ok holds, entriesIn, isMapping]

private theorem FileBreaks.givenBy (breaks : FileBreaks f p? m) :
    givenBy f p? = .error (.mishap m) := by
  cases breaks with
  | refused noNull tooLong =>
    rw [Settings.givenBy, Files.isFile_eq_error.2 ⟨noNull, tooLong, rfl⟩, Outcome.error_bind]
  | noText isRead noText =>
    rw [givenBy_of_read isRead, contentGives, Document.ofContent, Document.textOf, noText]
    rfl
  | reader isRead isText broken =>
    rw [givenBy_of_read isRead, contentGives, Document.ofContent, isText, Outcome.ok_bind,
      if_neg Bool.false_ne_true, broken]

/-- A file of settings gives values or breaks down. -/
theorem gives_or_breaks (f : Files) (p? : Option Path) :
    (∃ values, Gives f p? values) ∨ ∃ m, FileBreaks f p? m := by
  obtain _ | p := p?
  · exact .inl ⟨[], .unnamed⟩
  · cases there : f.isFile p with
    | error fault =>
      obtain ⟨noNull, tooLong, -⟩ := Files.isFile_eq_error.1 there
      exact .inr ⟨_, .refused noNull tooLong⟩
    | ok isThere =>
      cases isThere with
      | false => exact .inl ⟨_, .missing there⟩
      | true =>
        obtain ⟨content, isRead⟩ := Files.isFile_eq_true.1 there
        cases held : Document.ofContent false content with
        | error cause =>
          cases cause with
          | obstacle o => exact .inl ⟨_, .malformed isRead held⟩
          | mishap m => exact .inr ⟨m, fileBreaks_of_ofContent isRead held⟩
        | ok v =>
          left
          by_cases isMapping : ∃ entries, v.bare = .mapping entries
          · obtain ⟨entries, isMapping⟩ := isMapping
            exact ⟨entries, .mapping isRead held isMapping⟩
          · exact ⟨[], .noMapping isRead held (not_exists.1 isMapping)⟩

variable {path : Option String} {given : List (String × Value)}

/-- The ways in which a run breaks down before it has settings: with their file, or with a list of
paths among the values that the file and the options give. -/
inductive Breaks (f : Files) (path : Option String) (given : List (String × Value)) :
    Mishap → Prop
  | file {m : Mishap} : FileBreaks f (at? path) m → Breaks f path given m
  | list {values : List (Value × Value)} {m : Mishap} : Gives f (at? path) values →
    ListBreaks (overlay values given) m → Breaks f path given m

private theorem breaks_iff_of_gives (gives : Gives f (at? path) values) :
    Breaks f path given m ↔ ListBreaks (overlay values given) m := by
  refine ⟨?_, .list gives⟩
  rintro (breaks | ⟨gives', breaks⟩)
  · cases gives.givenBy.symm.trans breaks.givenBy
  · rwa [Except.ok.inj (gives.givenBy.symm.trans gives'.givenBy)]

private theorem outcome_load_of_gives (gives : Gives f (at? path) values) :
    (load wording f path given).outcome = (ofValues (overlay values given)).outcome := by
  rw [outcome_load, outcome_stored, gives.givenBy, Outcome.ok_bind]

private theorem outcome_load_of_breaks (breaks : FileBreaks f (at? path) m) (wording : Wording)
    (given : List (String × Value)) :
    (load wording f path given).outcome = .error (.mishap m) := by
  rw [outcome_load, outcome_stored, breaks.givenBy, Outcome.error_bind]

private theorem entries_infix_load (gives : Gives f (at? path) values) :
    (ofValues (overlay values given)).entries <:+: (load wording f path given).entries := by
  have fromPath : (stored wording f path).outcome = .ok values := by
    rw [outcome_stored, gives.givenBy]
  unfold stored at fromPath
  unfold load
  dsimp only
  -- The values are found in three ways. Behind each of them stand one note or two, and the rest.
  cases path
  case' some shown =>
    by_cases unnamed : shown = ""
    case' pos => simp only [if_pos unnamed] at fromPath ⊢
    case' neg => simp only [if_neg unnamed] at fromPath ⊢
  all_goals
    refine Journaled.infix_bind_right fromPath ?_
    split
    · refine Journaled.infix_bind_right (a := ()) rfl ?_
      refine Journaled.infix_bind_right (a := ()) rfl ?_
      exact Journaled.infix_bind_left List.infix_rfl
    · refine Journaled.infix_bind_right (a := ()) rfl ?_
      exact Journaled.infix_bind_left List.infix_rfl

/-- A run gets settings, which are those that the values in its file and the options say, or ends
after it is reported what is wrong with them, unless it breaks down: with its file, or with a list
of paths. A file that gives nothing, as one does that is not there or malformed, counts as none. -/
theorem load_valid_or_reported (wording : Wording) (f : Files) (path : Option String)
    (given : List (String × Value)) :
    ((∃ m, (load wording f path given).outcome = .error (.mishap m)) ↔
      ∃ m, Breaks f path given m) ∧
    ((∀ m, ¬ Breaks f path given m) → ∃ values, Gives f (at? path) values ∧
      ((∃ s, (load wording f path given).outcome = .ok s ∧ Reads (overlay values given) s) ∨
        (load wording f path given).outcome = .error (.exit ⟨1, Nat.one_ne_zero⟩) ∧
          Reported (overlay values given) (load wording f path given).entries)) ∧
    (Gives f (at? path) [] →
      (load wording f path given).outcome = (load wording f none given).outcome) := by
  refine ⟨?_, fun sound => ?_, fun gives => ?_⟩
  · obtain ⟨values, gives⟩ | ⟨m, breaks⟩ := gives_or_breaks f (at? path)
    · simp only [outcome_load_of_gives gives, breaks_iff_of_gives gives]
      obtain ⟨s, valid, reads⟩ | ⟨m, broken, breaks⟩ | ⟨exits, sound, -⟩ :=
        ofValues_cases (overlay values given)
      · exact iff_of_false (by simp [valid]) fun ⟨_, breaks⟩ => reads.not_listBreaks breaks
      · exact iff_of_true ⟨m, broken⟩ ⟨m, breaks⟩
      · exact iff_of_false (by simp [exits]) fun ⟨m, breaks⟩ => sound m breaks
    · exact iff_of_true ⟨m, outcome_load_of_breaks breaks wording given⟩ ⟨m, .file breaks⟩
  · obtain ⟨values, gives⟩ | ⟨m, breaks⟩ := gives_or_breaks f (at? path)
    · refine ⟨values, gives, ?_⟩
      rw [outcome_load_of_gives gives]
      obtain ⟨s, valid, reads⟩ | ⟨m, -, breaks⟩ | ⟨exits, -, some, lines⟩ :=
        ofValues_cases (overlay values given)
      · exact .inl ⟨s, valid, reads⟩
      · exact absurd (.list gives breaks) (sound m)
      · refine .inr ⟨exits, some, fun name text complaint => ?_⟩
        exact (lines name text complaint).trans (entries_infix_load gives)
    · exact absurd (.file breaks) (sound m)
  · rw [outcome_load_of_gives gives, outcome_load_of_gives .unnamed]

namespace Unreadable

def files (content : ByteArray) : Files :=
  ⟨[], [(["c.yaml"], .file content)]⟩

def noText : ByteArray := ⟨#[0xff]⟩

private theorem breaks_noText : FileBreaks (files noText) (at? (some "c.yaml")) .notText :=
  .noText (p := .ofString "c.yaml") rfl (by decide +kernel)

/-- A list that does not end. -/
def endless : ByteArray := "adl_files: [".toUTF8

private theorem gives_endless : Gives (files endless) (at? (some "c.yaml")) [] :=
  .malformed (p := .ofString "c.yaml") (o := .malformed) rfl rfl

/-- Directories to search, given as an option whose value is the end mark: the mark is stripped from
it, and a list of nothing is left. -/
def stripped : List (String × Value) := [("search_dirs", .list [.list []])]

private theorem breaks_stripped (f : Files) : Breaks f none stripped (.pathNotText 0 "list") :=
  .list .unnamed ⟨"search_dirs", by decide, .list [.list []], rfl,
    .items (itemsBreak_cons.2 (.inl ⟨rfl, rfl⟩))⟩

end Unreadable

open Unreadable

/-- A run does not always get settings or end after a report. -/
theorem load_not_always_reported : ¬ ∀ (wording : Wording) (f : Files) (path : Option String)
    (given : List (String × Value)), (∃ s, (load wording f path given).outcome = .ok s) ∨
      (load wording f path given).outcome = .error (.exit ⟨1, Nat.one_ne_zero⟩) := by
  intro claimed
  have fails := outcome_load_of_breaks breaks_noText (fun _ => "") []
  obtain ⟨s, valid⟩ | exits := claimed (fun _ => "") (files noText) (some "c.yaml") []
  · cases valid.symm.trans fails
  · cases exits.symm.trans fails

/-- Bytes that are no text break a run down, and so does a directory to search that is the end mark;
a file whose text is malformed counts as none. -/
theorem load_unreadable :
    (∃ m, (load (fun _ => "") (files noText) (some "c.yaml") []).outcome = .error (.mishap m)) ∧
    (∃ m, (load (fun _ => "") (files endless) none stripped).outcome = .error (.mishap m)) ∧
    (load (fun _ => "") (files endless) (some "c.yaml") []).outcome =
      (load (fun _ => "") (files endless) none []).outcome :=
  ⟨(load_valid_or_reported _ _ _ _).1.2 ⟨_, .file breaks_noText⟩,
    (load_valid_or_reported _ _ _ _).1.2 ⟨_, breaks_stripped _⟩,
    (load_valid_or_reported _ _ _ _).2.2 gives_endless⟩

end Settings

end AdlTables
