import Switchyard.Command.Arguments
import Switchyard.Command.Listing
import Switchyard.Command.Log
import Switchyard.Command.Report
import Switchyard.Command.Session
import Switchyard.Command.Workspace
import Switchyard.Config.Servers
import Switchyard.Document.Project

namespace Switchyard

structure ProgramOutput where
  exit : Nat
  output : List String
  errors : List String
  running : List String
  deriving DecidableEq, Inhabited

namespace Program

def settingsPath? (m : Machine) : Option Path :=
  m.home?.map fun home => home.join (.ofString ".anvil/config.toml")

/-- The settings to use, and the warnings about them; `detail` says what is malformed. -/
def settings (m : Machine) (detail : String) : Settings × List String :=
  match settingsPath? m with
  | none => (.default, [])
  | some path =>
    match Settings.load m.files m.current path with
    | .ok found => (found.getD .default, [])
    | .error e => (.default, ["warning: " ++ e.message detail ++ "; using defaults"])

def session (m : Machine) (w : Workspace) (s : Settings) : Session :=
  let servers := s.resolve m.environment m.hasCommand
  let watch := WatchFilter.load? m.files w.root s.ignore
  .ofRegistry m (.ofConfigs w.root servers watch m.hasCommand (s.handshakeTimeout * 1000))

structure OpenedFile where
  name : Path
  path : Path
  servers : Nat
  deriving DecidableEq, Inhabited

def diagnosticsOf (r : Registry) (file : OpenedFile) : Option FileDiagnostics :=
  r.diagnostics? file.path.display

def allReported (r : Registry) (files : List OpenedFile) : Bool :=
  files.all fun file => (diagnosticsOf r file).any fun d => file.servers ≤ d.clientCount

/-- Opens files one after another; those that no server took are complained of. -/
def openFiles (w : Workspace) (s : Session) :
    List Path → Session × List OpenedFile × List String
  | [] => (s, [], [])
  | name :: rest =>
    let path := w.file name
    let (s, result) := s.call (.watched .opened path)
    let (s, opened, errors) := openFiles w s rest
    match result with
    | .error e => (s, opened, e.message :: errors)
    | .ok (.count 0) => (s, opened, (name.display ++ ": no language server") :: errors)
    | .ok (.count n) => (s, ⟨name, path, n⟩ :: opened, errors)
    | .ok _ => (s, opened, errors)

def await (s : Session) (files : List OpenedFile) (waitMs : Nat) : Session :=
  if allReported s.registry files || waitMs == 0 then s else s.settle

def leftRunning (s : Session) : List String := (s.call .shutdownAll).1.registry.startedIds

def diagnostics (m : Machine) (w : Workspace) (s : Settings) (files : List Path)
    (waitMs : Nat) : ProgramOutput :=
  let session := session m w s
  if session.registry.entries.isEmpty then
    ⟨0, [], ["No language servers available (see `anvil servers`)."], []⟩
  else
    let (session, opened, errors) := openFiles w session files
    let session := await session opened waitMs
    let report := Report.ofFiles (opened.filterMap fun file =>
      (diagnosticsOf session.registry file).map fun d => (file.name, d))
    ⟨if report.errors > 0 then 1 else 0, report.lines, errors ++ [report.summary],
      leftRunning session⟩

def prewarm (m : Machine) (w : Workspace) (s : Settings) (dryRun : Bool) : ProgramOutput :=
  let line (text : String) : ProgramOutput := ⟨0, [text], [], []⟩
  if !dryRun && !s.prewarm then line "Prewarm is disabled in config ([lsp] prewarm = false)."
  else
    let session := session m w s
    let (session, result) := session.call (.prewarm dryRun (Project.languages m.files w.root))
    match result with
    | .ok (.ids (id :: ids)) =>
      let ids := id :: ids
      if dryRun then line ("Would start: " ++ ", ".intercalate ids)
      else
        let started := session.registry.startedIds
        let failed := ids.filter fun id => !started.contains id
        ⟨0, ("Started: " ++ ", ".intercalate started)
          :: if failed.isEmpty then [] else ["Failed: " ++ ", ".intercalate failed], [],
          leftRunning session⟩
    | _ => line ("Nothing to prewarm for " ++ w.root.display)

def servers (m : Machine) (s : Settings) : ProgramOutput :=
  match s.resolve m.environment fun _ => true with
  | [] => ⟨0, ["LSP is disabled in config."], [], []⟩
  | configured => ⟨0, configured.map fun c => c.line (m.hasCommand c.command), [], []⟩

/-- What is printed when there is no workspace: the error, and below it its cause. -/
def failure : List String → List String
  | [] => []
  | [message] => ["Error: " ++ message]
  | message :: causes =>
    ["Error: " ++ message, "", "Caused by:"] ++ causes.map fun c => "    " ++ c

def command (m : Machine) (w : Workspace) (s : Settings) : Command → ProgramOutput
  | .diagnostics files waitMs => diagnostics m w s files waitMs
  | .prewarm dryRun => prewarm m w s dryRun
  | .servers => servers m s
  | .help => ⟨0, Invocation.usage, [], []⟩

/-- Runs a command line on a machine, where the log is opened first; `detail` is what is said of
settings that are malformed. -/
def run (m : Machine) (detail : String) (line : List String) : ProgramOutput :=
  let m := withLog m
  match Invocation.read line with
  | .error e => ⟨2, [], ("error: " ++ e.message) :: "" :: Invocation.usage, []⟩
  | .ok ⟨_, .help⟩ => ⟨0, Invocation.usage, [], []⟩
  | .ok ⟨root, c⟩ =>
    let (s, warnings) := settings m detail
    match Workspace.locate m.files m.current (root.getD m.current) with
    | .error e => ⟨1, [], warnings ++ failure e.causes, []⟩
    | .ok w =>
      let out := command m w s c
      { out with errors := warnings ++ out.errors }

end Program
end Switchyard
