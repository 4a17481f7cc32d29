import Switchyard.Document.Project
import Switchyard.Registry

namespace Switchyard

inductive SpawnMode where
  | missing
  | rejected
  | broken
  | hanging
  /-- The server starts, and exits as soon as it is listened to. -/
  | exiting
  | running
  deriving DecidableEq, Inhabited

/-- How the next start attempts of a server come out. -/
structure SpawnPlan where
  mode : SpawnMode
  times : Option Nat
  ms : Nat
  deriving DecidableEq, Inhabited

namespace SpawnPlan

def standard : SpawnPlan := ⟨.running, none, 0⟩

def outcome (p : SpawnPlan) (config : ServerConfig) : SpawnOutcome :=
  match p.mode with
  | .missing => .failed (.spawn config.command "not found")
  | .rejected => .failed (.handshake config.id "rejected")
  | .broken => .failed (.transport config.id "broken pipe")
  | .hanging => .timedOut
  | .exiting => .running true
  | .running => .running false

def timing (p : SpawnPlan) (config : ServerConfig) (limit : Nat) : Nat × SpawnOutcome :=
  if p.mode == .hanging || limit < p.ms then (limit, .timedOut) else (p.ms, p.outcome config)

def next? (p : SpawnPlan) : Option SpawnPlan :=
  match p.times with
  | none => some p
  | some n => if n ≤ 1 then none else some { p with times := some (n - 1) }

end SpawnPlan

/-- A start attempt that comes out at a time. -/
structure SpawnTimer where
  time : Nat
  attempt : Nat
  outcome : SpawnOutcome
  deriving Inhabited

structure ScriptedRegistry where
  registry : Registry
  files : FileTree
  /-- The languages of the project, where they are not to be detected. -/
  languages : Option (List String)
  plans : List (String × SpawnPlan)
  failing : List String
  clock : Nat
  round : Nat
  /-- The tasks that have asked for their file, and in which round. -/
  reads : List (Nat × Nat)
  /-- The number of start attempts that have been given a plan. -/
  planned : Nat
  timers : List SpawnTimer
  deriving Inhabited

inductive ScriptStep where
  | document (event : DocumentEvent) (file : Path)
  | watched (event : DocumentEvent) (file : Path)
  | start (id : String)
  | route (file : Path) (method : String) (params : Json)
  | prewarm (dryRun : Bool)
  | shutdownAll
  | sleep (ms : Nat)
  | look
  /-- A server sends a notification, the latest one of its id where no number is given. -/
  | publish (id : String) (nth : Option Nat) (method : String) (params : Option Json)
  | exit (id : String) (nth : Option Nat)
  | clear (uri : String) (client : Option String)
  | subscribe
  | unsubscribe (listener : Nat)
  | write (file : Path) (text : String)
  | remove (file : Path)
  | plan (id : String) (plan : Option SpawnPlan)
  | failSending (id : String) (on : Bool)
  deriving Inhabited

inductive StepResult where
  | reply (reply : Except ServerError RegistryReply)
  | seen (registry : Registry)
  | flag (b : Bool)
  | number (n : Nat)
  | nothing
  | all (results : List StepResult)
  deriving Inhabited

inductive Chore where
  | fresh (step : ScriptStep)
  | running (task : Nat)
  | asleep (time : Nat)
  | finished (result : StepResult)
  | group (chores : List Chore)
  deriving Inhabited

namespace ScriptedRegistry

def ofRegistry (registry : Registry) (files : FileTree) (languages : Option (List String))
    (plans : List (String × SpawnPlan)) : ScriptedRegistry where
  registry := registry
  files := files
  languages := languages
  plans := plans
  failing := []
  clock := 0
  round := 0
  reads := []
  planned := 0
  timers := []

def act (s : ScriptedRegistry) (a : RegistryAction) : ScriptedRegistry :=
  { s with registry := s.registry.step a }

def stage (s : ScriptedRegistry) (t : Nat) : TaskStage :=
  ((s.registry.tasks[t]?).map (·.stage)).getD (.done (.ok .nothing))

/-- Gives a new start attempt its plan; one that takes no time comes out at once. -/
def planAttempt (s : ScriptedRegistry) : ScriptedRegistry :=
  match s.registry.attempts[s.planned]? with
  | none => s
  | some attempt =>
    let a := s.planned
    let s := { s with planned := a + 1 }
    match s.registry.entries[attempt.entry]? with
    | none => s
    | some entry =>
      let config := entry.config
      let plan := (s.plans.lookup config.id).getD .standard
      let others := s.plans.filter (·.1 != config.id)
      let plans :=
        match (s.plans.lookup config.id).bind SpawnPlan.next? with
        | some p => (config.id, p) :: others
        | none => others
      let (delay, outcome) := plan.timing config s.registry.handshakeMs
      let s := { s with plans }
      if delay = 0 then s.act (.spawned a outcome)
      else { s with timers := s.timers ++ [⟨s.clock + delay, a, outcome⟩] }

def takes (s : ScriptedRegistry) (e : Nat) : Bool :=
  match s.registry.entries[e]? with
  | some entry => !s.failing.contains entry.config.id
  | none => false

def pollDelivery (t : Nat) (s : ScriptedRegistry) (d : Nat) : ScriptedRegistry :=
  let s := ((s.act (.deliver t d)).planAttempt).act (.deliver t d)
  match s.stage t with
  | .routing _ ds =>
    match ds[d]? with
    | some ⟨e, .sending _ _⟩ => s.act (.sent t d (s.takes e))
    | _ => s
  | _ => s

/-- A task that holds its lock gets its file one round after it has asked for it. -/
def pollRead (s : ScriptedRegistry) (t : Nat) (path : Path) : ScriptedRegistry :=
  match s.reads.lookup t with
  | none => { s with reads := (t, s.round) :: s.reads }
  | some round => if round < s.round then s.act (.read t (s.files.readText path)) else s

def pollTask (s : ScriptedRegistry) (t : Nat) : ScriptedRegistry :=
  let s := s.act (.resume t)
  let s :=
    match s.stage t with
    | .reading _ path _ => s.pollRead t path
    | _ => s
  match s.stage t with
  | .routing _ ds => (List.range ds.length).foldl (pollDelivery t) s
  | .closing handles => handles.foldl (fun s h => s.act (.closed t h)) s
  | _ => s

def handlesOf (s : ScriptedRegistry) (id : String) : List Nat :=
  (List.range s.registry.handles.length).filter fun h =>
    (((s.registry.handles[h]?).bind fun x => s.registry.entries[x.entry]?).map
      (·.config.id)) == some id

def attended? (s : ScriptedRegistry) (id : String) (nth : Option Nat) : Option Nat :=
  let handles := s.handlesOf id
  let handle :=
    match nth with
    | some n => handles[n]?
    | none => handles.getLast?
  handle.filter fun h => ((s.registry.handles[h]?).map (·.attended)).getD false

def atHandle (s : ScriptedRegistry) (id : String) (nth : Option Nat)
    (action : Nat → RegistryAction) : ScriptedRegistry × Chore :=
  match s.attended? id nth with
  | some h => (s.act (action h), .finished (.flag true))
  | none => (s, .finished (.flag false))

def choreOf (s : ScriptedRegistry) (t : Nat) : Chore :=
  match s.stage t with
  | .done result => .finished (.reply result)
  | _ => .running t

def callNow (s : ScriptedRegistry) (call : RegistryCall) : ScriptedRegistry × Chore :=
  let t := s.registry.tasks.length
  let s := (s.act (.call call)).pollTask t
  (s, s.choreOf t)

def startStep (s : ScriptedRegistry) : ScriptStep → ScriptedRegistry × Chore
  | .document event file => s.callNow (.document event file)
  | .watched event file => s.callNow (.watched event file)
  | .start id => s.callNow (.start id)
  | .route file method params => s.callNow (.route file method params)
  | .prewarm dryRun =>
    s.callNow (.prewarm dryRun (s.languages.getD (Project.languages s.files s.registry.root)))
  | .shutdownAll => s.callNow .shutdownAll
  | .sleep ms => (s, if ms = 0 then .finished .nothing else .asleep (s.clock + ms))
  | .look => (s, .finished (.seen s.registry))
  | .publish id nth method params => s.atHandle id nth (.notify · method params)
  | .exit id nth => s.atHandle id nth .exit
  | .clear uri client => (s.act (.hub (.clear uri client)), .finished .nothing)
  | .subscribe =>
    (s.act (.hub .subscribe), .finished (.number s.registry.hub.nextListener))
  | .unsubscribe listener =>
    (s.act (.hub (.unsubscribe listener)),
      .finished (.flag (s.registry.hub.listeners.contains listener)))
  | .write file text =>
    ({ s with
        files := s.files.put (s.registry.resolve file).names
          (.file (Text.Utf8.ofString text) false) },
      .finished .nothing)
  | .remove file =>
    let isFile := s.files.isFile (s.registry.resolve file)
    (if isFile then { s with files := s.files.erase (s.registry.resolve file).names } else s,
      .finished (.flag isFile))
  | .plan id plan =>
    let others := s.plans.filter (·.1 != id)
    ({ s with plans := (plan.map fun p => (id, p)).toList ++ others }, .finished .nothing)
  | .failSending id on =>
    let others := s.failing.filter (· != id)
    ({ s with failing := if on then id :: others else others }, .finished .nothing)

mutual

def poll (s : ScriptedRegistry) : Chore → ScriptedRegistry × Chore
  | .fresh step => s.startStep step
  | .running t =>
    let s := s.pollTask t
    (s, s.choreOf t)
  | .asleep time => (s, if time ≤ s.clock then .finished .nothing else .asleep time)
  | .finished result => (s, .finished result)
  | .group chores =>
    let (s, chores) := pollAll s chores
    (s, .group chores)

def pollAll (s : ScriptedRegistry) : List Chore → ScriptedRegistry × List Chore
  | [] => (s, [])
  | c :: rest =>
    let (s, c) := poll s c
    let (s, rest) := pollAll s rest
    (s, c :: rest)

end

mutual

def resultOf : Chore → Option StepResult
  | .finished result => some result
  | .group chores => (resultsOf chores).map .all
  | _ => none

def resultsOf : List Chore → Option (List StepResult)
  | [] => some []
  | c :: rest =>
    match resultOf c, resultsOf rest with
    | some r, some rs => some (r :: rs)
    | _, _ => none

end

mutual

def sizeOf : Chore → Nat
  | .group chores => sizesOf chores + 1
  | _ => 1

def sizesOf : List Chore → Nat
  | [] => 0
  | c :: rest => sizeOf c + sizesOf rest

end

mutual

def alarms : Chore → List Nat
  | .asleep time => [time]
  | .group chores => alarmsOf chores
  | _ => []

def alarmsOf : List Chore → List Nat
  | [] => []
  | c :: rest => alarms c ++ alarmsOf rest

end

def rounds : Nat → ScriptedRegistry → Chore → ScriptedRegistry × Chore
  | 0, s, c => (s, c)
  | n + 1, s, c =>
    if (resultOf c).isSome then (s, c)
    else
      let (s, c) := s.poll c
      rounds n { s with round := s.round + 1 } c

def nextTime? (s : ScriptedRegistry) (c : Chore) : Option Nat :=
  (alarms c ++ s.timers.map (·.time)).min?

/-- Moves the clock, and lets the start attempts come out whose time has come. -/
def advanceTo (s : ScriptedRegistry) (time : Nat) : ScriptedRegistry :=
  let due := s.timers.filter (·.time ≤ time)
  let s := { s with clock := time, timers := s.timers.filter fun t => time < t.time }
  due.foldl (fun s t => s.act (.spawned t.attempt t.outcome)) s

def drive : Nat → ScriptedRegistry → Chore → ScriptedRegistry × Chore
  | 0, s, c => (s, c)
  | n + 1, s, c =>
    let (s, c) := rounds (4 * sizeOf c + 8) s c
    if (resultOf c).isSome then (s, c)
    else
      match s.nextTime? c with
      | none => (s, c)
      | some time => drive n (s.advanceTo time) c

/-- Runs a chore to its end. Every step waits once for each entry at most, or for its own alarm. -/
def run (s : ScriptedRegistry) (c : Chore) : ScriptedRegistry × StepResult :=
  let bound := (sizeOf c + 1) * (s.registry.entries.length + 1) + s.timers.length + 1
  let (s, c) := drive bound s c
  (s, (resultOf c).getD .nothing)

def forgetHistory (s : ScriptedRegistry) : ScriptedRegistry :=
  { s with
    registry := { s.registry with
      history := []
      hub := { s.registry.hub with received := [] } } }

/-- The id of a handle's server, and the handle's number among those of the id. -/
def label (s : ScriptedRegistry) (h : Nat) : String × Nat :=
  match (s.registry.handles[h]?).bind fun x => s.registry.entries[x.entry]? with
  | none => ("", 0)
  | some entry => (entry.config.id, (s.handlesOf entry.config.id).findIdx (· == h))

end ScriptedRegistry
end Switchyard
