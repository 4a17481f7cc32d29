import Switchyard.Diagnostic.Hub
import Switchyard.Registry.Lock
import Switchyard.Registry.Notice
import Switchyard.Server.Config
import Switchyard.Server.Error
import Switchyard.Uri
import Switchyard.Watch

namespace Switchyard

inductive SlotState where
  | notStarted
  | starting (attempt : Nat)
  | started (handle : Nat)
  deriving DecidableEq, Inhabited

structure Slot where
  state : SlotState
  /-- Grows with every start attempt and every shutdown; what belongs to an older generation no
  longer counts. -/
  generation : Nat
  unusable : Bool
  deriving DecidableEq, Inhabited

structure Entry where
  config : ServerConfig
  slot : Slot
  /-- The documents that the server has been sent an opening for since it started. -/
  opened : List String
  deriving DecidableEq, Inhabited

namespace Entry

def ofConfig (config : ServerConfig) : Entry := ⟨config, ⟨.notStarted, 0, false⟩, []⟩

def isIdle (e : Entry) : Bool := !e.slot.unusable && e.slot.state == .notStarted

def handle? (e : Entry) : Option Nat :=
  match e.slot.state with
  | .started handle => some handle
  | _ => none

def withState (e : Entry) (state : SlotState) : Entry := { e with slot := { e.slot with state } }

def addOpened (e : Entry) (uri : String) : Entry :=
  if e.opened.contains uri then e else { e with opened := uri :: e.opened }

def removeOpened (e : Entry) (uri : String) : Entry :=
  { e with opened := e.opened.filter (· != uri) }

end Entry

/-- One start of a server, for all callers that wait for it. -/
structure StartAttempt where
  entry : Nat
  generation : Nat
  /-- The handle or the error that it came to; none while it is under way. -/
  outcome : Option (Except ServerError Nat)
  deriving Inhabited

structure Handle where
  entry : Nat
  generation : Nat
  /-- The registry listens to its notifications and to its exit. -/
  attended : Bool
  disposed : Bool
  deriving DecidableEq, Inhabited

/-- What is done with the server of an entry. -/
inductive Errand where
  | start
  | opening (uri language text : String)
  | changing (uri language text : String) (version : Int32)
  | closing (uri : String)
  | telling (method : String) (params : Json)
  deriving Inhabited

inductive DeliveryOutcome where
  | accepted (handle : Nat)
  | declined
  | failed (error : ServerError)
  deriving Inhabited

inductive DeliveryStage where
  | begun
  | starting (attempt : Nat)
  | sending (handle : Nat) (notice : Notice)
  | done (outcome : DeliveryOutcome)
  deriving Inhabited

/-- An errand on its way to the server of an entry. -/
structure Delivery where
  entry : Nat
  stage : DeliveryStage
  deriving Inhabited

inductive DocumentEvent where
  | opened
  | changed
  | closed
  deriving DecidableEq, Inhabited

inductive RegistryCall where
  | document (event : DocumentEvent) (file : Path)
  /-- An event that a watcher reports; the watch filter may reject it. -/
  | watched (event : DocumentEvent) (file : Path)
  | start (id : String)
  | route (file : Path) (method : String) (params : Json)
  /-- Starts the servers for languages of the project, or only names them. -/
  | prewarm (dryRun : Bool) (languages : List String)
  | shutdownAll
  deriving Inhabited

inductive RegistryReply where
  | count (n : Nat)
  | handle (handle : Nat)
  | ids (ids : List String)
  | nothing
  deriving DecidableEq, Inhabited

inductive TaskStage where
  | begun
  | locking (event : DocumentEvent) (path : Path) (uri : String)
  | reading (event : DocumentEvent) (path : Path) (uri : String)
  | routing (errand : Errand) (deliveries : List Delivery)
  | closing (handles : List Nat)
  | done (result : Except ServerError RegistryReply)
  deriving Inhabited

structure Task where
  call : RegistryCall
  stage : TaskStage
  deriving Inhabited

inductive RegistryEvent where
  | spawning (entry : Nat)
  /-- A start attempt failed that was the latest one of its entry. -/
  | startFailed (entry : Nat) (error : ServerError)
  | exited (handle : Nat)
  | shutdownAll
  | accepted (task handle : Nat) (notice : Notice)
  | shuttingDown (handle : Nat)
  | disposed (handle : Nat)
  deriving Inhabited

structure Registry where
  root : Path
  watch : Option WatchFilter
  commandExists : String → Bool
  handshakeMs : Nat
  entries : List Entry
  attempts : List StartAttempt
  handles : List Handle
  /-- The version last sent of each document that is open. -/
  versions : List (String × Int32)
  locks : DocumentLocks
  hub : DiagnosticsHub
  tasks : List Task
  history : List RegistryEvent
  deriving Inhabited

namespace Registry

def distinct (configs : List ServerConfig) : List ServerConfig :=
  configs.foldl (fun kept c => if kept.any (·.id == c.id) then kept else kept ++ [c]) []

def ofConfigs (root : Path) (configs : List ServerConfig) (watch : Option WatchFilter)
    (commandExists : String → Bool) (handshakeMs : Nat) : Registry where
  root := root
  watch := watch
  commandExists := commandExists
  handshakeMs := handshakeMs
  entries := (distinct configs).map Entry.ofConfig
  attempts := []
  handles := []
  versions := []
  locks := .empty
  hub := .empty
  tasks := []
  history := []

def resolve (r : Registry) (file : Path) : Path := r.root.join file

def version? (r : Registry) (file : Path) : Option Int32 := do
  r.versions.lookup (← Uri.ofPath? (r.resolve file))

def configuredIds (r : Registry) : List String := r.entries.map (·.config.id)

def startedIds (r : Registry) : List String :=
  (r.entries.filter (·.handle?.isSome)).map (·.config.id)

def hasScheme : List Char → Bool
  | [] => false
  | c :: cs => "://".toList.isPrefixOf (c :: cs) || hasScheme cs

def key? (r : Registry) (target : String) : Option String :=
  if "file:".toList.isPrefixOf target.toList then some (Uri.canonical target)
  else if hasScheme target.toList then some target
  else Uri.ofPath? (r.resolve (.ofString target))

def diagnostics? (r : Registry) (target : String) : Option FileDiagnostics := do
  r.hub.store.get? (← r.key? target)

def note (r : Registry) (e : RegistryEvent) : Registry := { r with history := e :: r.history }

def modifyEntry (r : Registry) (e : Nat) (f : Entry → Entry) : Registry :=
  { r with entries := r.entries.modify e f }

def setStage (r : Registry) (t : Nat) (stage : TaskStage) : Registry :=
  { r with tasks := r.tasks.modify t ({ · with stage }) }

def setVersion (r : Registry) (uri : String) (version : Int32) : Registry :=
  { r with versions := (uri, version) :: r.versions.filter (·.1 != uri) }

def dropVersion (r : Registry) (uri : String) : Registry :=
  { r with versions := r.versions.filter (·.1 != uri) }

def dispose (r : Registry) (h : Nat) : Registry :=
  match r.handles[h]? with
  | none => r
  | some handle =>
    if handle.disposed then r
    else { r with handles := r.handles.set h { handle with disposed := true } }.note (.disposed h)

def requestLock (r : Registry) (t : Nat) (uri : String) : Registry :=
  { r with locks := r.locks.request t uri }

def hasLock (r : Registry) (t : Nat) : Bool := r.locks.has t

def releaseLock (r : Registry) (t : Nat) : Registry := { r with locks := r.locks.release t }

def dropLock (r : Registry) (uri : String) : Registry := { r with locks := r.locks.drop uri }

end Registry
end Switchyard
