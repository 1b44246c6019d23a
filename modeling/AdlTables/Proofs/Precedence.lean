import AdlTables.Options
import AdlTables.Proofs.Entries
import AdlTables.Proofs.Outcome
import AdlTables.Settings

/-! # Precedence of settings

Options take the place of what a file of settings says, setting by setting, so a file has no say in
a setting that is given as an option. The path of the script is put together from two settings: a
directory, where there is one, takes the place of the path. So a file that names a directory still
decides where the script goes when only the path is given as an option.
-/

namespace AdlTables

private theorem Value.find?_eq_entries (entries : List (Value × Value)) (name : String) :
    Value.find? entries name = Entries.find? entries (.text name) := by
  have test (entry : Value × Value) : entry.1.isText name = entry.1.same (.text name) := by
    rw [Bool.eq_iff_iff]
    constructor
    · intro isText
      cases known : entry.1 with
      | text s =>
        rw [known] at isText
        exact isText
      | _ =>
        rw [known] at isText
        cases isText
    · intro like
      rw [Value.eq_text_of_same like]
      exact beq_self_eq_true name
  rw [Value.find?, Entries.find?]
  simp only [test, keyLike_same]

namespace Settings

variable {wording wording' : Wording} {f f' : Files} {path path' : Option String}
  {o : Options} {s s' : Settings} {values : List (Value × Value)} {name : String} {v : Value}

def overlay (fromPath : List (Value × Value)) (given : List (String × Value)) :
    List (Value × Value) :=
  (given.filter fun (name, v) => isGiven v && names.contains name).foldl
    (fun done (name, v) => Entries.put done (Value.text name) v) fromPath

/-- The values that a file of settings gives, if there is one. -/
def stored (wording : Wording) (files : Files) : Option String → Journaled (List (Value × Value))
  | none => pure []
  | some shown => if shown = "" then pure [] else fromFile wording files shown

/-- The settings of a run are those of the values in the file with the given ones over them. -/
theorem outcome_load (given : List (String × Value)) : (load wording f path given).outcome =
    (stored wording f path).outcome >>= fun fromPath =>
      (ofValues (overlay fromPath given)).outcome := by
  -- What is noted on the way has no effect, whether or not an option is given.
  have noted (x : Except Fault Settings) : (x >>= fun s => (pure s : Journaled Settings).outcome) =
      x := bind_pure x
  unfold load stored
  cases path with
  | none =>
    simp only [apply_ite Journaled.outcome, Journaled.outcome_bind, Journaled.outcome_note,
      Outcome.ok_bind, noted, ite_self, overlay]
  | some shown =>
    simp only [apply_ite Journaled.outcome, Journaled.outcome_bind, Journaled.outcome_note,
      Outcome.ok_bind, noted, ite_self, overlay]
    split <;> rfl

/-- A given value is the value of its setting, whatever stands in the file. -/
theorem find?_overlay {fromPath : List (Value × Value)} {given : List (String × Value)}
    (distinct : (given.map (·.1)).Nodup) (member : (name, v) ∈ given) (counts : isGiven v)
    (known : name ∈ names) : Value.find? (overlay fromPath given) name = some v := by
  let pairs := (given.filter fun (name, v) => isGiven v && names.contains name).map
    fun entry => (Value.text entry.1, entry.2)
  have put : overlay fromPath given =
      pairs.foldl (fun done entry => Entries.put done entry.1 entry.2) fromPath := by
    rw [overlay, List.foldl_map]
  have apart : Entries.Distinct pairs.reverse := by
    refine List.pairwise_reverse.2 (List.pairwise_map.2 (List.Pairwise.filter _ ?_))
    refine (List.pairwise_map.1 distinct).imp fun unlike => ?_
    exact beq_eq_false_iff_ne.2 (Ne.symm unlike)
  have stands : (Value.text name, v) ∈ pairs.reverse := by
    refine List.mem_reverse.2 (List.mem_map.2 ⟨(name, v), List.mem_filter.2 ⟨member, ?_⟩, rfl⟩)
    exact Bool.and_eq_true_iff.2 ⟨counts, List.contains_iff_mem.2 known⟩
  rw [Value.find?_eq_entries, put, Entries.find?_foldl_put,
    Entries.find?_of_mem apart stands (beq_self_eq_true name), Option.some_or]

/-- Where the script goes that is meant for a path, given the directory there may be for it. -/
def scriptIn (directory : Option String) (outfile : String) : String :=
  match directory with
  | none => outfile
  | some dir =>
    if dir = "" then outfile
    else ((Path.ofString dir).join (.ofString standardOutfile)).display

/-- In a directory the script has the same path, whatever path it is meant for. -/
theorem scriptIn_directory {dir : String} (nonempty : dir ≠ "") (outfile outfile' : String) :
    scriptIn (some dir) outfile = scriptIn (some dir) outfile' := by
  rw [scriptIn, scriptIn, if_neg nonempty, if_neg nonempty]

/-- What settings have to do with the values they are made of. -/
structure Reads (values : List (Value × Value)) (s : Settings) : Prop where
  adlFiles : setting values "adl_files" [] paths = .ok s.adlFiles
  searchDirs : setting values "search_dirs" [] paths = .ok s.searchDirs
  outfile : ∃ outfile, setting values "outfile" standardOutfile someText = .ok outfile ∧
    s.outfile = scriptIn s.outputDir outfile
  outputDir : setting values "output_dir" none optionalText = .ok s.outputDir
  dialect : setting values "dialect" Dialect.postgres dialectOf = .ok s.dialect

/-- Only the path of the script depends on a setting other than its own. -/
theorem settleOutput_outcome :
    (settleOutput s).outcome = .ok { s with outfile := scriptIn s.outputDir s.outfile } := by
  obtain ⟨adlFiles, searchDirs, outfile, outputDir, dialect⟩ := s
  cases outputDir with
  | none => rfl
  | some dir =>
    simp only [settleOutput, scriptIn]
    split <;> rfl

theorem reads_of_ofValues (valid : (ofValues values).outcome = .ok s) : Reads values s := by
  unfold ofValues at valid
  dsimp only at valid
  split at valid
  · rename_i adlFiles searchDirs outfile outputDir dialect first second third fourth fifth
    simp only [Journaled.outcome_bind, settleOutput_outcome, Journaled.outcome_note,
      Outcome.ok_bind, Journaled.outcome_pure, Except.ok.injEq] at valid
    subst valid
    exact ⟨first, second, ⟨outfile, third, rfl⟩, fourth, fifth⟩
  · split at valid
    · cases valid
    · cases valid

/-- A setting that has a value is read from it. -/
theorem setting_of_find {α : Type} {default : α} {read : Value → Except Flaw α}
    (found : Value.find? values name = some v) : setting values name default read = read v := by
  rw [setting, found]

/-- The paths in a list are its items, trimmed, each of which is a text. -/
theorem pathItems_eq_ok {index : Nat} {items : List Value} {ss : List String}
    (valid : pathItems index items = .ok ss) :
    items.map (fun item => item.text?.map Text.trim) = ss.map some := by
  fun_induction pathItems index items generalizing ss with
  | case1 =>
    obtain rfl := Except.ok.inj valid
    rfl
  | case2 => cases valid
  | case3 _ _ _ _ ih =>
    obtain ⟨others, rest, last⟩ := Outcome.bind_eq_ok.1 valid
    obtain rfl := Except.ok.inj last
    rw [List.map_cons, ih rest]
    rfl
  | case4 => cases valid

private theorem isGiven_list {items : List Value} (nonempty : items ≠ []) :
    isGiven (.list items) := by
  cases items with
  | nil => exact absurd rfl nonempty
  | cons => rfl

private theorem someText_eq_ok {text outfile : String}
    (valid : someText (.text text) = .ok outfile) : outfile = text := by
  obtain ⟨_, same, nonempty⟩ := Outcome.bind_eq_ok.1 valid
  obtain rfl := Except.ok.inj same
  split at nonempty
  · cases nonempty
  · exact (Except.ok.inj nonempty).symm

private theorem dialectOf_name (d : Dialect) : dialectOf (.text d.name) = .ok d := by
  cases d <;> rfl

/-- What options say of the settings of a run, whatever file it has. -/
structure Obeys (o : Options) (s : Settings) : Prop where
  adlFiles : o.adlFiles ≠ [] → s.adlFiles = o.adlFiles.map Text.trim
  searchDirs : o.searchDirs ≠ [] → s.searchDirs.map some = o.searchDirs.map (·.map Text.trim)
  outfile : ∃ outfile, s.outfile = scriptIn s.outputDir outfile ∧
    ∀ given, o.outfile = some given → outfile = given
  outputDir : ∀ dir, o.outputDir = some dir → s.outputDir = some dir
  dialect : ∀ d, o.dialect = some d → s.dialect = d

/-- The settings of a run are those that its options give. -/
theorem obeys_of_load (loaded : (load wording f path o.given).outcome = .ok s) :
    Obeys o s := by
  rw [outcome_load] at loaded
  obtain ⟨fromPath, -, valid⟩ := Outcome.bind_eq_ok.1 loaded
  obtain ⟨adlFiles, searchDirs, ⟨outfile, isOutfile, settled⟩, outputDir, dialect⟩ :=
    reads_of_ofValues valid
  have given {name : String} {v : Value} (member : (name, v) ∈ o.given) (counts : isGiven v) :
      Value.find? (overlay fromPath o.given) name = some v :=
    find?_overlay (by decide : names.Nodup) member counts
      (List.mem_map_of_mem (f := Prod.fst) member)
  constructor
  case adlFiles =>
    intro nonempty
    have counts : isGiven (.list (o.adlFiles.map .text)) :=
      isGiven_list (by simpa using nonempty)
    rw [setting_of_find (given (by simp [Options.given, Value.texts]) counts)] at adlFiles
    have items := pathItems_eq_ok adlFiles
    rw [List.map_map] at items
    refine List.map_injective_iff.2 (fun _ _ => Option.some.inj) ?_
    rw [← items, List.map_map]
    rfl
  case searchDirs =>
    intro nonempty
    let dir (s : Option String) : Value := (s.map .text).getD (.list [])
    have counts : isGiven (.list (o.searchDirs.map dir)) :=
      isGiven_list (by simpa using nonempty)
    rw [setting_of_find (given (by simp [Options.given, dir]) counts)] at searchDirs
    have items := pathItems_eq_ok searchDirs
    rw [List.map_map] at items
    rw [← items]
    refine List.map_congr_left fun s _ => ?_
    cases s <;> rfl
  case outfile =>
    refine ⟨outfile, settled, fun x isGiven => ?_⟩
    rw [setting_of_find (given (v := .text x) (by simp [Options.given, isGiven]) rfl)] at isOutfile
    exact someText_eq_ok isOutfile
  case outputDir =>
    intro dir isGiven
    have found : Value.find? (overlay fromPath o.given) "output_dir" = some (.text dir) :=
      given (by simp [Options.given, isGiven]) rfl
    rw [setting_of_find found] at outputDir
    exact (Except.ok.inj outputDir).symm
  case dialect =>
    intro d isGiven
    rw [setting_of_find (given (v := .text d.name) (by simp [Options.given, isGiven]) rfl),
      dialectOf_name] at dialect
    exact (Except.ok.inj dialect).symm

/-- Runs with the same options agree on what these give, whatever files they have: on the lists of
paths, on the dialect, and on the path of the script where a directory is given. Where only a path
is given for the script it goes there, or into the directory that a run still has. -/
theorem agree_of_load (loaded : (load wording f path o.given).outcome = .ok s)
    (loaded' : (load wording' f' path' o.given).outcome = .ok s') :
    (o.adlFiles ≠ [] → s'.adlFiles = s.adlFiles) ∧
      (o.searchDirs ≠ [] → s'.searchDirs = s.searchDirs) ∧
      (o.dialect.isSome → s'.dialect = s.dialect) ∧
      (∀ dir, o.outputDir = some dir → s'.outputDir = s.outputDir ∧
        (dir ≠ "" → s'.outputPath = s.outputPath)) ∧
      ∀ outfile, o.outfile = some outfile →
        s.outputPath = .ofString (scriptIn s.outputDir outfile) ∧
        s'.outputPath = .ofString (scriptIn s'.outputDir outfile) := by
  have obeys := obeys_of_load loaded
  have obeys' := obeys_of_load loaded'
  obtain ⟨outfile, isScript, meant⟩ := obeys.outfile
  obtain ⟨outfile', isScript', meant'⟩ := obeys'.outfile
  refine ⟨fun nonempty => ?_, fun nonempty => ?_, fun given => ?_,
    fun dir given => ⟨?_, fun nonempty => ?_⟩, fun x given => ?_⟩
  · rw [obeys.adlFiles nonempty, obeys'.adlFiles nonempty]
  · refine List.map_injective_iff.2 (fun _ _ => Option.some.inj) ?_
    rw [obeys.searchDirs nonempty, obeys'.searchDirs nonempty]
  · obtain ⟨d, given⟩ := Option.isSome_iff_exists.1 given
    rw [obeys.dialect d given, obeys'.dialect d given]
  · rw [obeys.outputDir dir given, obeys'.outputDir dir given]
  · rw [outputPath, outputPath, isScript, isScript', obeys.outputDir dir given,
      obeys'.outputDir dir given, scriptIn_directory nonempty outfile outfile']
  · rw [outputPath, outputPath, isScript, isScript', meant x given, meant' x given]
    exact ⟨rfl, rfl⟩

namespace Directed

/-- Files with settings at two paths, one of which names a directory for the script. -/
def files : Files where
  current := []
  entries := [
    (["dir.yaml"], .file "output_dir: build\nadl_files: b.json\ndialect: mssql\n".toUTF8),
    (["plain.yaml"], .file "outfile: plain.sql\nsearch_dirs: [lib]\n".toUTF8)]

def options : Options where
  adlFiles := [" a.json"]
  searchDirs := [some "adl"]
  outfile := some "x.sql"
  outputDir := none
  dialect := some .postgresV2
  config := some "dir.yaml"
  verbose := false
  noColor := false

/-- The settings of a run with these options and a directory for the script, if there is one. -/
def settings (outfile : String) (dir : Option String) : Settings :=
  ⟨["a.json"], ["adl"], outfile, dir, .postgresV2⟩

private theorem load_dir : (load (fun _ => "") files (some "dir.yaml") options.given).outcome =
    .ok (settings "build/create.sql" (some "build")) :=
  Outcome.toOption_eq_some.1 (by decide +kernel)

private theorem load_plain : (load (fun _ => "") files (some "plain.yaml") options.given).outcome =
    .ok (settings "x.sql" none) :=
  Outcome.toOption_eq_some.1 (by decide +kernel)

end Directed

/-- A given path for the script is not always where the script goes. -/
theorem not_always_given_path : ¬ ∀ (wording wording' : Wording) (files files' : Files)
    (path path' : Option String) (o : Options) (s s' : Settings),
    (load wording files path o.given).outcome = .ok s →
    (load wording' files' path' o.given).outcome = .ok s' →
    o.outfile.isSome → s'.outputPath = s.outputPath := by
  intro always
  have same := always _ _ _ _ _ _ _ _ _ Directed.load_dir Directed.load_plain rfl
  exact absurd same (by decide +kernel)

theorem directed_agree : ∃ s s',
    (load (fun _ => "") Directed.files (some "dir.yaml") Directed.options.given).outcome = .ok s ∧
    (load (fun _ => "") Directed.files (some "plain.yaml") Directed.options.given).outcome =
      .ok s' ∧
    s'.adlFiles = s.adlFiles ∧ s'.searchDirs = s.searchDirs ∧ s'.dialect = s.dialect ∧
      s.outputPath = .ofString "build/create.sql" ∧ s'.outputPath = .ofString "x.sql" := by
  obtain ⟨adlFiles, searchDirs, dialect, -, path⟩ :=
    agree_of_load Directed.load_dir Directed.load_plain
  obtain ⟨inDirectory, atPath⟩ := path "x.sql" rfl
  refine ⟨_, _, Directed.load_dir, Directed.load_plain, adlFiles (by decide),
    searchDirs (by decide), dialect rfl, ?_, atPath⟩
  rw [inDirectory]
  decide +kernel

end Settings

end AdlTables
