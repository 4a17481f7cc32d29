import Mathlib.Algebra.Ring.Nat
import Switchyard.Proofs.Command.Waiting
import Switchyard.Proofs.Diagnostic.Snapshot

namespace Switchyard

namespace Diagnostic

variable {d : Diagnostic} {name : Path}

def isNote (d : Diagnostic) : Bool := d.severity == some .information || d.severity == some .hint

def InRange (d : Diagnostic) : Prop :=
  d.range.start.line.toNat < Nat.pow 2 32 - 1 ∧ d.range.start.character.toNat < Nat.pow 2 32 - 1

def shown (name : Path) (d : Diagnostic) : String :=
  name.display ++ ":" ++ toString (d.range.start.line.toNat + 1) ++ ":"
    ++ toString (d.range.start.character.toNat + 1) ++ ": "
    ++ (d.severity.map Severity.label).getD "warning" ++ ": ["
    ++ d.source.getD "unknown" ++ "] " ++ d.message

theorem isWarning_iff :
    Report.isWarning d = true ↔ d.severity = some .warning ∨ d.severity = none := by
  rw [Report.isWarning, Bool.or_eq_true, beq_iff_eq, Option.isNone_iff_eq_none]

theorem isNote_iff :
    isNote d = true ↔ d.severity = some .information ∨ d.severity = some .hint := by
  rw [isNote, Bool.or_eq_true, beq_iff_eq, beq_iff_eq]

theorem toString_succ {n : UInt32} (h : n.toNat < Nat.pow 2 32 - 1) :
    toString (n + 1) = toString (n.toNat + 1) := by
  have hn : (n + 1).toNat = n.toNat + 1 := by
    rw [UInt32.toNat_add]
    have hone : (1 : UInt32).toNat = 1 := rfl
    have hsize : Nat.pow 2 32 = 4294967296 := rfl
    exact Nat.mod_eq_of_lt (by omega)
  rw [← hn]
  rfl

theorem InRange.line_eq (h : d.InRange) : d.line name = d.shown name := by
  rw [line, shown, toString_succ h.1, toString_succ h.2]

theorem counts_add (items : List Diagnostic) :
    items.countP isError + items.countP Report.isWarning + items.countP isNote = items.length := by
  induction items with
  | nil => rfl
  | cons d items ih =>
    have hd : (if isError d then 1 else 0) + (if Report.isWarning d then 1 else 0) +
        (if isNote d then 1 else 0) = 1 := by
      unfold isError Report.isWarning isNote
      cases d.severity with
      | none => rfl
      | some severity => cases severity <;> rfl
    rw [List.countP_cons, List.countP_cons, List.countP_cons, List.length_cons]
    omega

end Diagnostic

namespace FileDiagnostics

variable {file : FileDiagnostics}

def Stored (file : FileDiagnostics) : Prop :=
  ∃ steps uri, (DiagnosticsHub.empty.run steps).store.get? uri = some file

theorem Stored.all_eq (h : file.Stored) : file.all = file.slices.flatMap (·.2) := by
  obtain ⟨steps, uri, hf⟩ := h
  obtain ⟨-, -, -, -, -, hall⟩ :=
    Reporting.record?_fits ((DiagnosticsHub.get?_run steps uri).symm.trans hf)
  exact hall

theorem stored_of_record? {uri : String} {past : List HubCall}
    (h : Reporting.record? uri past = some file) : file.Stored := by
  have huses : uses (past.reverse.map .use) = past := by
    rw [uses, List.filterMap_map]
    have hsome : (HubStep.call? ∘ HubStep.use) = some := rfl
    rw [hsome, List.filterMap_some, List.reverse_reverse]
  exact ⟨past.reverse.map .use, uri, by rw [DiagnosticsHub.get?_run, huses, h]⟩

end FileDiagnostics

namespace Report

variable {files files' : List (Path × FileDiagnostics)}

/-- All diagnostics of files with the names they are shown by: file by file, in each of them client
by client, and what each client published in its order. -/
def published (files : List (Path × FileDiagnostics)) : List (Path × Diagnostic) :=
  files.flatMap fun file => file.2.slices.flatMap fun slice => slice.2.map (file.1, ·)

theorem ofFiles_append (files files' : List (Path × FileDiagnostics)) :
    ofFiles (files ++ files') = (ofFiles files).append (ofFiles files') := by
  induction files with
  | nil => simp [ofFiles, append]
  | cons file files ih => simp [ofFiles, append, ih, Nat.add_assoc]

theorem errors_ofFiles (files : List (Path × FileDiagnostics)) :
    (ofFiles files).errors = (files.map (·.2.errorCount)).sum := by
  induction files with
  | nil => rfl
  | cons file files ih =>
    rw [List.map_cons, List.sum_cons, ← ih]
    rfl

theorem errors_pos_iff : 0 < (ofFiles files).errors ↔ ∃ file ∈ files, 0 < file.2.errorCount := by
  induction files with
  | nil => exact iff_of_false (Nat.lt_irrefl 0) nofun
  | cons file files ih =>
    rw [List.exists_mem_cons_iff, ← ih]
    exact Nat.add_pos_iff_pos_or_pos

theorem published_cons {file : Path × FileDiagnostics} (h : file.2.Stored) :
    published (file :: files) = file.2.all.map (file.1, ·) ++ published files := by
  rw [published, List.flatMap_cons, ← List.map_flatMap, ← h.all_eq]
  rfl

theorem length_published (h : ∀ file ∈ files, file.2.Stored) :
    (published files).length = (files.map (·.2.all.length)).sum := by
  induction files with
  | nil => rfl
  | cons file files ih =>
    obtain ⟨hfile, hfiles⟩ := List.forall_mem_cons.1 h
    rw [published_cons hfile, List.length_append, List.length_map, ih hfiles, List.map_cons,
      List.sum_cons]

theorem mem_published {p : Path × Diagnostic} (h : ∀ file ∈ files, file.2.Stored)
    (hp : p ∈ published files) : ∃ file ∈ files, p.2 ∈ file.2.all := by
  obtain ⟨file, hfile, hp⟩ := List.mem_flatMap.1 hp
  rw [← List.map_flatMap, ← (h file hfile).all_eq] at hp
  obtain ⟨d, hd, rfl⟩ := List.mem_map.1 hp
  exact ⟨file, hfile, hd⟩

theorem lines_ofFiles (h : ∀ file ∈ files, file.2.Stored) :
    (ofFiles files).lines = (published files).map fun p => p.2.line p.1 := by
  induction files with
  | nil => rfl
  | cons file files ih =>
    obtain ⟨hfile, hfiles⟩ := List.forall_mem_cons.1 h
    rw [published_cons hfile, List.map_append, List.map_map, ← ih hfiles]
    rfl

theorem counts_ofFiles (h : ∀ file ∈ files, file.2.Stored) :
    (ofFiles files).errors = ((published files).map (·.2)).countP Diagnostic.isError ∧
      (ofFiles files).warnings = ((published files).map (·.2)).countP isWarning := by
  induction files with
  | nil => exact ⟨rfl, rfl⟩
  | cons file files ih =>
    obtain ⟨hfile, hfiles⟩ := List.forall_mem_cons.1 h
    obtain ⟨herrors, hwarnings⟩ := ih hfiles
    have hitems : (published (file :: files)).map (·.2) =
        file.2.all ++ (published files).map (·.2) := by
      rw [published_cons hfile, List.map_append, List.map_map]
      exact congrArg (· ++ _) (List.map_id _)
    rw [hitems, List.countP_append, List.countP_append, ← herrors, ← hwarnings]
    exact ⟨rfl, rfl⟩

end Report

namespace Program

variable {m : Machine} {w : Workspace} {s : Settings} {names : List Path} {waitMs : Nat}

def reported (m : Machine) (w : Workspace) (s : Settings) (names : List Path) (waitMs : Nat) :
    List (Path × FileDiagnostics) :=
  let session := session m w s
  if session.registry.entries.isEmpty then []
  else
    let opened := openFiles w session names
    let session := await opened.1 opened.2.1 waitMs
    opened.2.1.filterMap fun file =>
      (diagnosticsOf session.registry file).map fun d => (file.name, d)

theorem diagnostics_reported (m : Machine) (w : Workspace) (s : Settings) (names : List Path)
    (waitMs : Nat) :
    let report := Report.ofFiles (reported m w s names waitMs)
    (diagnostics m w s names waitMs).output = report.lines ∧
      (diagnostics m w s names waitMs).exit = if report.errors > 0 then 1 else 0 := by
  unfold reported diagnostics
  dsimp only
  split
  · exact ⟨rfl, rfl⟩
  · exact ⟨rfl, rfl⟩

theorem follows_await (session : Session) (files : List OpenedFile) (waitMs : Nat) :
    session.Follows (await session files waitMs) := by
  unfold await
  split
  · exact .refl session
  · exact Session.follows_settle session

theorem stored_of_found {r : Registry} {file : OpenedFile} {record : FileDiagnostics}
    (hr : r.Reachable) (hf : diagnosticsOf r file = some record) : record.Stored := by
  obtain ⟨uri, -, hget⟩ := Option.bind_eq_some_iff.1 hf
  obtain ⟨past, hpast⟩ := hr.hasReported
  exact FileDiagnostics.stored_of_record? ((hpast uri).symm.trans hget)

theorem stored_of_reported {f : Path × FileDiagnostics} (h : f ∈ reported m w s names waitMs) :
    f.2.Stored := by
  unfold reported at h
  dsimp only at h
  split at h
  · cases h
  obtain ⟨file, -, hf⟩ := List.mem_filterMap.1 h
  obtain ⟨record, hrecord, rfl⟩ := Option.map_eq_some_iff.1 hf
  refine stored_of_found ?_ hrecord
  obtain ⟨hopened, -⟩ := openFiles_opened w (session m w s) names
  obtain ⟨actions, hrun⟩ := hopened.trans (follows_await _ _ waitMs)
  have hfresh : (session m w s).registry.Fresh := ⟨_, _, _, _, _, rfl⟩
  rw [hrun]
  exact hfresh.reachable.run actions

/-- A command line for diagnostics on which there is a workspace does what the command does. -/
theorem run_diagnostics (detail : String) {line : List String} {root : Option Path}
    (hline : Invocation.read line = .ok ⟨root, .diagnostics names waitMs⟩)
    (hw : Workspace.locate (withLog m).files m.current (root.getD m.current) = .ok w) :
    (run m detail line).output =
        (diagnostics (withLog m) w (settings (withLog m) detail).1 names waitMs).output ∧
      (run m detail line).exit =
        (diagnostics (withLog m) w (settings (withLog m) detail).1 names waitMs).exit := by
  have hcurrent : (withLog m).current = m.current := rfl
  rw [run]
  dsimp only
  rw [hline]
  dsimp only
  rw [hcurrent, hw]
  exact ⟨rfl, rfl⟩

/-- A report has a line for each diagnostic that the clients have published, in their order, and
adds up the errors that the store has counted; errors, warnings and notes make up all lines. A
report on more files goes on from the one before. The command prints such a report, and fails just
if the store counts an error for a file that it reports on. -/
theorem report_accounts :
    (∀ files : List (Path × FileDiagnostics),
      (∀ file ∈ files, file.2.Stored ∧ ∀ d ∈ file.2.all, d.InRange) →
      let report := Report.ofFiles files
      let published := Report.published files
      report.lines = published.map (fun p => p.2.shown p.1) ∧
      report.lines.length = (files.map (·.2.all.length)).sum ∧
      report.errors = (files.map (·.2.errorCount)).sum ∧
      report.warnings = published.countP
        (fun p => p.2.severity = some .warning ∨ p.2.severity = none) ∧
      report.errors + report.warnings + published.countP
        (fun p => p.2.severity = some .information ∨ p.2.severity = some .hint) =
        report.lines.length) ∧
    (Report.ofFiles [] = ⟨[], 0, 0⟩ ∧ ∀ files files',
      Report.ofFiles (files ++ files') = (Report.ofFiles files).append (Report.ofFiles files')) ∧
    ∀ m detail line root names waitMs w,
      Invocation.read line = .ok ⟨root, .diagnostics names waitMs⟩ →
      Workspace.locate (withLog m).files m.current (root.getD m.current) = .ok w →
      let files := reported (withLog m) w (settings (withLog m) detail).1 names waitMs
      (∀ file ∈ files, file.2.Stored) ∧
      (run m detail line).output = (Report.ofFiles files).lines ∧
      (run m detail line).exit = if ∃ file ∈ files, 0 < file.2.errorCount then 1 else 0 := by
  refine ⟨fun files h => ?_, ⟨rfl, Report.ofFiles_append⟩, ?_⟩
  · have hstored : ∀ file ∈ files, file.2.Stored := fun file hm => (h file hm).1
    obtain ⟨herrors, hwarnings⟩ := Report.counts_ofFiles hstored
    have hlines := Report.lines_ofFiles hstored
    refine ⟨?_, ?_, Report.errors_ofFiles files, ?_, ?_⟩
    · rw [hlines]
      refine List.map_congr_left fun p hp => ?_
      obtain ⟨file, hm, hd⟩ := Report.mem_published hstored hp
      exact ((h file hm).2 p.2 hd).line_eq
    · rw [hlines, List.length_map, Report.length_published hstored]
    · rw [hwarnings, List.countP_map]
      refine List.countP_congr fun p _ => ?_
      simp only [Function.comp, Diagnostic.isWarning_iff, decide_eq_true_eq]
    · have hnotes : (Report.published files).countP
          (fun p => p.2.severity = some .information ∨ p.2.severity = some .hint) =
          ((Report.published files).map (·.2)).countP Diagnostic.isNote := by
        rw [List.countP_map]
        refine List.countP_congr fun p _ => ?_
        simp only [Function.comp, Diagnostic.isNote_iff, decide_eq_true_eq]
      rw [herrors, hwarnings, hnotes, Diagnostic.counts_add, hlines, List.length_map,
        List.length_map]
  · intro m detail line root names waitMs w hline hw files
    obtain ⟨houtput, hexit⟩ := run_diagnostics detail hline hw
    obtain ⟨hlines, hcode⟩ := diagnostics_reported (withLog m) w
      (settings (withLog m) detail).1 names waitMs
    refine ⟨fun file => stored_of_reported, houtput.trans hlines, ?_⟩
    rw [hexit, hcode]
    exact if_congr Report.errors_pos_iff rfl rfl

def mixedItems : List Diagnostic :=
  [⟨"wrong", default, some .error, none, none⟩,
    ⟨"far", ⟨⟨4294967294, 4294967294⟩, default⟩, some .hint, none, none⟩]

/-- What two clients have reported on a document, the second one without a severity. -/
def mixedFile : FileDiagnostics :=
  ⟨"u", [("ts", mixedItems), ("lint", [default])], mixedItems ++ [default], none⟩

theorem stored_mixedFile : mixedFile.Stored :=
  ⟨[.use (.upsert "u" "ts" mixedItems none), .tell, .use (.upsert "u" "lint" [default] none)], "u",
    rfl⟩

def wrong : Diagnostic := ⟨"m", default, some .error, none, none⟩

/-- A machine with one file and one server, which finds an error in it. -/
def strictMachine : Machine where
  files := (FileTree.empty.put [[119], Text.Utf8.ofString "main.rs"] (.file [] false)).put
    [[98], Text.Utf8.ofString "rust-analyzer"] (.file Machine.programMark true)
  environment := [("PATH", "/b")]
  current := .ofString "/w"
  servers := [([[98], Text.Utf8.ofString "rust-analyzer"],
    ⟨.accept, [], some (.arr [wrong.toJson]), none, none, false, false⟩)]

theorem reported_strictMachine :
    (reported (withLog strictMachine) ⟨.ofString "/w"⟩ (settings (withLog strictMachine) "").1
      [.ofString "main.rs"] Invocation.defaultWaitMs).map (fun file => (file.1, file.2.all)) =
      [(.ofString "main.rs", [wrong])] := by
  decide +kernel

theorem report_accounts_mixed :
    let files := [(Path.ofString "a.ts", mixedFile), (Path.ofString "b.ts", mixedFile)]
    ((∀ file ∈ files, file.2.Stored ∧ ∀ d ∈ file.2.all, d.InRange) ∧
      (Report.ofFiles files).lines.length = 6 ∧ (Report.ofFiles files).errors = 2 ∧
      (Report.ofFiles files).warnings = 2) ∧
    Invocation.read ["diagnostics", "main.rs"] =
      .ok ⟨none, .diagnostics [.ofString "main.rs"] Invocation.defaultWaitMs⟩ ∧
    Workspace.locate (withLog strictMachine).files strictMachine.current strictMachine.current =
      .ok ⟨.ofString "/w"⟩ ∧
    (run strictMachine "" ["diagnostics", "main.rs"]).output =
      ["main.rs:1:1: error: [unknown] m"] ∧
    (run strictMachine "" ["diagnostics", "main.rs"]).exit = 1 := by
  intro files
  have hrange : ∀ d ∈ mixedFile.all, d.InRange := by
    unfold Diagnostic.InRange
    decide
  have hfiles : ∀ file ∈ files, file.2.Stored ∧ ∀ d ∈ file.2.all, d.InRange := by
    intro file hm
    obtain rfl | hm := List.mem_cons.1 hm
    · exact ⟨stored_mixedFile, hrange⟩
    · rw [List.mem_singleton.1 hm]
      exact ⟨stored_mixedFile, hrange⟩
  have hline : Invocation.read ["diagnostics", "main.rs"] =
      .ok ⟨none, .diagnostics [.ofString "main.rs"] Invocation.defaultWaitMs⟩ := by
    decide +kernel
  have hw : Workspace.locate (withLog strictMachine).files strictMachine.current
      strictMachine.current = .ok ⟨.ofString "/w"⟩ := by
    decide +kernel
  obtain ⟨-, hlength, herrors, hwarnings, -⟩ := report_accounts.1 _ hfiles
  obtain ⟨-, houtput, hexit⟩ := report_accounts.2.2 strictMachine "" _ none _ _ _ hline hw
  obtain ⟨file, hreported, hfile⟩ := List.map_eq_singleton_iff.1 reported_strictMachine
  obtain ⟨hname, hall⟩ := Prod.mk.inj hfile
  rw [hreported] at houtput hexit
  refine ⟨⟨hfiles, hlength.trans (by decide), herrors.trans (by decide),
    hwarnings.trans (by decide)⟩, hline, hw, houtput.trans ?_, hexit.trans (if_pos ?_)⟩
  · have hlines : (Report.ofFiles [file]).lines = file.2.all.map (·.line file.1) :=
      List.append_nil _
    rw [hlines, hname, hall]
    decide +kernel
  · refine ⟨file, List.mem_singleton_self _, ?_⟩
    rw [FileDiagnostics.errorCount, hall]
    decide

end Program
end Switchyard
