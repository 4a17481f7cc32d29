import Switchyard.Diagnostic.File

namespace Switchyard

structure Report where
  lines : List String
  errors : Nat
  warnings : Nat
  deriving DecidableEq, Inhabited

namespace Report

def isWarning (d : Diagnostic) : Bool := d.severity == some .warning || d.severity.isNone

def ofFile (name : Path) (file : FileDiagnostics) : Report where
  lines := file.all.map (·.line name)
  errors := file.all.countP Diagnostic.isError
  warnings := file.all.countP isWarning

def append (a b : Report) : Report :=
  ⟨a.lines ++ b.lines, a.errors + b.errors, a.warnings + b.warnings⟩

def ofFiles : List (Path × FileDiagnostics) → Report
  | [] => ⟨[], 0, 0⟩
  | (name, file) :: rest => (ofFile name file).append (ofFiles rest)

def summary (r : Report) : String :=
  toString r.errors ++ " error(s), " ++ toString r.warnings ++ " warning(s)"

end Report
end Switchyard
