import Switchyard.Diagnostic.Basic

namespace Switchyard

structure FileDiagnostics where
  uri : String
  slices : List (String × List Diagnostic)
  /-- The diagnostics of all clients; every change of the slices brings it up to date. -/
  all : List Diagnostic
  version : Option Int32
  deriving DecidableEq, Inhabited

namespace FileDiagnostics

def empty (uri : String) : FileDiagnostics := ⟨uri, [], [], none⟩

def forClient? (f : FileDiagnostics) (client : String) : Option (List Diagnostic) :=
  f.slices.lookup client

def clientCount (f : FileDiagnostics) : Nat := f.slices.length

def errorCount (f : FileDiagnostics) : Nat := f.all.countP Diagnostic.isError

def setSlice (client : String) (items : List Diagnostic) :
    List (String × List Diagnostic) → List (String × List Diagnostic)
  | [] => [(client, items)]
  | s :: rest => if s.1 == client then (client, items) :: rest else s :: setSlice client items rest

def recompute (f : FileDiagnostics) : FileDiagnostics := { f with all := f.slices.flatMap (·.2) }

def setClient (f : FileDiagnostics) (client : String) (items : List Diagnostic) :
    FileDiagnostics :=
  { f with slices := setSlice client items f.slices }.recompute

def publish (f : FileDiagnostics) (client : String) (items : List Diagnostic)
    (version : Option Int32) : FileDiagnostics :=
  { f.setClient client items with version := version.or f.version }

def removeClient (f : FileDiagnostics) (client : String) : FileDiagnostics :=
  { f with slices := f.slices.filter (·.1 != client) }.recompute

end FileDiagnostics
end Switchyard
