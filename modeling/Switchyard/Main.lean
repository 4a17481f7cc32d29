import Switchyard.Command.Program

namespace Switchyard.Program

def paths (m : Machine) (line : List String) : List Path :=
  match Invocation.read line with
  | .error _ => []
  | .ok invocation =>
    let root := ((invocation.root.getD m.current).absolute? m.current).getD m.current
    let files :=
      match invocation.command with
      | .diagnostics files _ => files
      | _ => []
    let marks := Path.ofString ".gitignore" :: Project.markers.map fun k => Path.ofString k.1
    [m.current, root] ++ (marks ++ files).map root.join

def programPaths (m : Machine) (s : Settings) : List Path :=
  (s.mergedServers m.environment).flatMap fun c => m.places (.ofString c.command)

def referredVariables (s : Settings) : List String :=
  s.servers.flatMap fun c =>
    (c.command :: c.args).flatMap fun text => Environment.references text.toList

/-- Puts what lies at a path, seen from the current directory, into a tree. -/
def load (executable : Bool) (files : FileTree) (path : Path) : IO FileTree := do
  let current ← IO.currentDir
  let place := current / path.display
  let path := (Path.ofString current.toString).join path
  if ← place.isDir then return files.put path.names .directory
  if !(← place.pathExists) then return files
  if executable then return files.put path.names (.file Machine.programMark true)
  let content ← IO.FS.readBinFile place
  return files.put path.names (.file content.toList false)

def makeLog : List Path → IO Unit
  | [] => return
  | directory :: rest => do
    try
      IO.FS.createDirAll directory.display
      let log := directory.join logName
      discard <| IO.FS.Handle.mk log.display .append
    catch _ => makeLog rest

def environment (names : List String) : IO Environment := do
  let found ← names.mapM fun name => do return (← IO.getEnv name).map fun value => (name, value)
  return found.filterMap id

end Switchyard.Program

open Switchyard in
def main (line : List String) : IO UInt32 := do
  let current := Path.ofString (← IO.currentDir).toString
  let environment ← Program.environment ["HOME", "PATH"]
  let m : Machine := { files := .empty, environment, current, servers := [] }
  Program.makeLog (Program.logDirectories m)
  let files ← (Program.settingsPath? m).toList.foldlM (Program.load false) m.files
  let m := { m with files }
  let (settings, _) := Program.settings m ""
  let more ← Program.environment (Program.referredVariables settings)
  let m := { m with environment := m.environment ++ more }
  let files ← (Program.paths m line).foldlM (Program.load false) m.files
  let files ← (Program.programPaths m settings).foldlM (Program.load true) files
  let out := Program.run { m with files } "it is not valid" line
  out.errors.forM IO.eprintln
  out.output.forM IO.println
  return .ofNat out.exit
