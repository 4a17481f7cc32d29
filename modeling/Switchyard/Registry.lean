import Switchyard.Registry.Delivery

namespace Switchyard

namespace DeliveryStage

def isDone : DeliveryStage → Bool
  | .done _ => true
  | _ => false

def isAccepted : DeliveryStage → Bool
  | .done (.accepted _) => true
  | _ => false

end DeliveryStage

inductive RegistryAction where
  | call (call : RegistryCall)
  | resume (task : Nat)
  | read (task : Nat) (result : Except FileError String)
  /-- A delivery of a task begins, or goes on if its server has been started. -/
  | deliver (task delivery : Nat)
  | sent (task delivery : Nat) (accepted : Bool)
  | spawned (attempt : Nat) (outcome : SpawnOutcome)
  | closed (task handle : Nat)
  | exit (handle : Nat)
  | notify (handle : Nat) (method : String) (params : Option Json)
  | hub (call : HubCall)
  deriving Inhabited

namespace Registry

def routeTo (r : Registry) (t : Nat) (errand : Errand) (entries : List Nat) : Registry :=
  r.setStage t (.routing errand (entries.map fun e => ⟨e, .begun⟩))

def entriesWhere (r : Registry) (p : Entry → Bool) : List Nat :=
  (List.range r.entries.length).filter fun e => (r.entries[e]?).any p

def matching (r : Registry) (path : Path) : List Nat :=
  r.entriesWhere fun e => e.config.selector.accepts path r.root

def result (r : Registry) (call : RegistryCall) (ds : List Delivery) :
    Except ServerError RegistryReply :=
  match call, ds with
  | .start _, ⟨_, .done (.accepted h)⟩ :: _ => .ok (.handle h)
  | .start _, ⟨_, .done (.failed e)⟩ :: _ => .error e
  | .prewarm _ _, ds => .ok (.ids (ds.filterMap fun d => (r.entries[d.entry]?).map (·.config.id)))
  | _, ds => .ok (.count (ds.countP (·.stage.isAccepted)))

/-- Gives up the lock that a task has for an errand; a document that has been closed needs no
lock. -/
def unlock (r : Registry) (t : Nat) : Errand → Registry
  | .opening _ _ _ | .changing _ _ _ _ => r.releaseLock t
  | .closing uri => (r.releaseLock t).dropLock uri
  | .start | .telling _ _ => r

def finish (r : Registry) (t : Nat) : Registry :=
  match r.tasks[t]? with
  | some ⟨call, .routing errand ds⟩ =>
    if ds.all (·.stage.isDone) then
      (r.unlock t errand).setStage t (.done (r.result call ds))
    else r
  | _ => r

def holdLock (r : Registry) (t : Nat) (event : DocumentEvent) (path : Path) (uri : String) :
    Registry :=
  match event with
  | .closed => ((r.dropVersion uri).routeTo t (.closing uri) (r.matching path)).finish t
  | event => r.setStage t (.reading event path uri)

/-- Begins with an event of a document: waits for the lock of the document. -/
def beginDocument (r : Registry) (t : Nat) (event : DocumentEvent) (file : Path) : Registry :=
  let path := r.resolve file
  match Uri.ofPath? path with
  | none => r.setStage t (.done (.error (.read path (Uri.noUriMessage path))))
  | some uri =>
    let r := r.requestLock t uri
    if r.hasLock t then r.holdLock t event path uri
    else r.setStage t (.locking event path uri)

def candidates (r : Registry) (languages : List String) : List Nat :=
  r.entriesWhere fun e =>
    e.isIdle && e.config.selector.languages.any languages.contains
      && r.commandExists e.config.command

def begin (r : Registry) (t : Nat) : RegistryCall → Registry
  | .document event file => r.beginDocument t event file
  | .watched event file =>
    if r.watch.all (·.accepts file) then r.beginDocument t event file
    else
      -- A filter that fails takes the call with it.
      r.setStage t (if r.watch.any (·.fails file) then .begun else .done (.ok (.count 0)))
  | .start id =>
    match r.entries.findIdx? (·.config.id == id) with
    | none => r.setStage t (.done (.error (.unknownClient id)))
    | some e => r.routeTo t .start [e]
  | .route file method params =>
    (r.routeTo t (.telling method params) (r.matching (r.resolve file))).finish t
  | .prewarm dryRun languages =>
    let entries := r.candidates languages
    if dryRun then
      r.setStage t (.done (.ok (.ids (entries.filterMap fun e =>
        (r.entries[e]?).map (·.config.id)))))
    else (r.routeTo t .start entries).finish t
  | .shutdownAll =>
    let (r, handles) := r.takeAll
    r.setStage t (if handles.isEmpty then .done (.ok .nothing) else .closing handles)

def resume (r : Registry) (t : Nat) : Registry :=
  match r.tasks[t]? with
  | some ⟨call, .begun⟩ => r.begin t call
  | some ⟨_, .locking event path uri⟩ =>
    if r.hasLock t then r.holdLock t event path uri else r
  | _ => r

def nextVersion (r : Registry) (uri : String) : Int32 :=
  match r.versions.lookup uri with
  | some v => v + 1
  | none => 1

def read (r : Registry) (t : Nat) (result : Except FileError String) : Registry :=
  match r.tasks[t]? with
  | some ⟨_, .reading event path uri⟩ =>
    match result with
    | .error e =>
      ((r.releaseLock t).dropLock uri).setStage t (.done (.error (.read path e.message)))
    | .ok text =>
      let language := Language.detect path
      let version := if event == .opened then 1 else r.nextVersion uri
      let errand :=
        if event == .opened then .opening uri language text
        else .changing uri language text version
      ((r.setVersion uri version).routeTo t errand (r.matching path)).finish t
  | _ => r

def setDelivery (r : Registry) (t : Nat) (errand : Errand) (ds : List Delivery) (d : Nat)
    (stage : DeliveryStage) : Registry :=
  (r.setStage t (.routing errand (ds.modify d ({ · with stage })))).finish t

def deliver (r : Registry) (t d : Nat) : Registry :=
  match r.tasks[t]? with
  | some ⟨_, .routing errand ds⟩ =>
    match ds[d]? with
    | none => r
    | some delivery =>
      match r.entries[delivery.entry]? with
      | none => r
      | some entry =>
        let (r, stage) := r.advance errand delivery entry
        r.setDelivery t errand ds d stage
  | _ => r

def endSending (r : Registry) (t d : Nat) (accepted : Bool) : Registry :=
  match r.tasks[t]? with
  | some ⟨_, .routing errand ds⟩ =>
    match ds[d]? with
    | some ⟨e, .sending h notice⟩ =>
      let (r, stage) := r.sent t e h notice accepted
      r.setDelivery t errand ds d stage
    | _ => r
  | _ => r

def close (r : Registry) (t h : Nat) : Registry :=
  match r.tasks[t]? with
  | some ⟨_, .closing handles⟩ =>
    if handles.contains h then
      let handles := handles.filter (· != h)
      (r.dispose h).setStage t
        (if handles.isEmpty then .done (.ok .nothing) else .closing handles)
    else r
  | _ => r

def publish (r : Registry) (client : String) (p : Rpc.PublishDiagnostics) : Registry :=
  let uri := Uri.canonical p.uri
  let version := p.version.or (r.versions.lookup uri)
  { r with hub := r.hub.use (.upsert uri client p.diagnostics version) }

def receive (r : Registry) (h : Nat) (method : String) (params : Option Json) : Registry :=
  match r.handles[h]? with
  | none => r
  | some handle =>
    match r.entries[handle.entry]? with
    | none => r
    | some entry =>
      if handle.attended && method == Rpc.publishDiagnostics then
        match Rpc.PublishDiagnostics.ofParams? params with
        | some p => r.publish entry.config.id p
        | none => r
      else r

def step (r : Registry) : RegistryAction → Registry
  | .call call => { r with tasks := r.tasks ++ [⟨call, .begun⟩] }
  | .resume t => r.resume t
  | .read t result => r.read t result
  | .deliver t d => r.deliver t d
  | .sent t d accepted => r.endSending t d accepted
  | .spawned a outcome => r.spawned a outcome
  | .closed t h => r.close t h
  | .exit h => r.exit h
  | .notify h method params => r.receive h method params
  | .hub call => { r with hub := r.hub.use call }

def run (r : Registry) (actions : List RegistryAction) : Registry := actions.foldl step r

end Registry
end Switchyard
