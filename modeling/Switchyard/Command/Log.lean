import Switchyard.Machine.Program

namespace Switchyard.Program

/-- Where the log may lie, the best place first; nowhere without a home directory. -/
def logDirectories (m : Machine) : List Path :=
  let inSettings := Path.ofString ".anvil/logs"
  match m.home? with
  | some home => [m.current.join (home.join inSettings), m.current.join inSettings]
  | none => []

def logName : Path := .ofString "anvil.log"

def openLog? (files : FileTree) (directory : Path) : Option FileTree :=
  match files.extend [] (Path.segments directory.bytes) with
  | .error _ => none
  | .ok (files, place) =>
    let log := place ++ [logName.bytes]
    match files.node? log with
    | some .directory => none
    | some _ => some files
    | none => some (files.set log (.file [] false))

def withLog (m : Machine) : Machine :=
  { m with files := ((logDirectories m).findSome? (openLog? m.files)).getD m.files }

end Switchyard.Program
