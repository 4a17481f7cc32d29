import Switchyard.Machine.FileTree
import Switchyard.Path.Absolute

namespace Switchyard

structure Workspace where
  root : Path
  deriving DecidableEq, Inhabited

inductive WorkspaceError where
  | emptyRoot
  | notADirectory (root : Path)
  deriving DecidableEq, Inhabited

namespace WorkspaceError

def causes : WorkspaceError → List String
  | .emptyRoot => ["resolving workspace root ", "cannot make an empty path absolute"]
  | .notADirectory root => ["workspace root " ++ root.display ++ " is not a directory"]

def message (e : WorkspaceError) : String := ": ".intercalate e.causes

end WorkspaceError

namespace Workspace

def locate (files : FileTree) (current root : Path) : Except WorkspaceError Workspace :=
  match root.absolute? current with
  | none => .error .emptyRoot
  | some root => if files.isDirectory root then .ok ⟨root⟩ else .error (.notADirectory root)

def file (w : Workspace) (name : Path) : Path := w.root.join name

end Workspace
end Switchyard
