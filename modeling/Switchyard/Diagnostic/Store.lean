import Switchyard.Diagnostic.File
import Switchyard.Text.Sorted

namespace Switchyard

/-- Told to listeners after a change: the record of the document, none once it has no slice. -/
structure DiagnosticsEvent where
  uri : String
  file : Option FileDiagnostics
  deriving DecidableEq, Inhabited

structure DiagnosticsStore where
  files : List (String × FileDiagnostics)
  deriving Inhabited

namespace DiagnosticsStore

def empty : DiagnosticsStore := ⟨[]⟩

def get? (s : DiagnosticsStore) (uri : String) : Option FileDiagnostics := s.files.lookup uri

def erase (s : DiagnosticsStore) (uri : String) : DiagnosticsStore :=
  ⟨s.files.filter (·.1 != uri)⟩

def set (s : DiagnosticsStore) (uri : String) (file : FileDiagnostics) : DiagnosticsStore :=
  ⟨(uri, file) :: (s.erase uri).files⟩

/-- Replaces the slice of a client. An empty list is a slice too: the client found nothing. -/
def upsert (s : DiagnosticsStore) (uri client : String) (items : List Diagnostic)
    (version : Option Int32) : DiagnosticsStore × DiagnosticsEvent :=
  let file := ((s.get? uri).getD (.empty uri)).publish client items version
  (s.set uri file, ⟨uri, some file⟩)

/-- Drops the slice of a client, or all slices. There is no event where there was nothing to
drop. -/
def clear (s : DiagnosticsStore) (uri : String) (client : Option String) :
    DiagnosticsStore × Option DiagnosticsEvent :=
  match s.get? uri, client with
  | none, _ => (s, none)
  | some _, none => (s.erase uri, some ⟨uri, none⟩)
  | some file, some client =>
    if (file.forClient? client).isNone then (s, none)
    else
      let file := file.removeClient client
      if file.slices.isEmpty then (s.erase uri, some ⟨uri, none⟩)
      else (s.set uri file, some ⟨uri, some file⟩)

def uris (s : DiagnosticsStore) : List String := Text.sortedSet (s.files.map (·.1))

def before (a b : FileDiagnostics) : Bool :=
  if a.errorCount > 0 && b.errorCount == 0 then true
  else if a.errorCount == 0 && b.errorCount > 0 then false
  else a.uri ≤ b.uri

def snapshot (s : DiagnosticsStore) : List FileDiagnostics := (s.files.map (·.2)).mergeSort before

end DiagnosticsStore
end Switchyard
