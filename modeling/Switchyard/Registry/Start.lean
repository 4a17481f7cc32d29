import Switchyard.Registry.Basic

namespace Switchyard

inductive SpawnOutcome where
  /-- The server runs; `exited` says that it is found to be over as soon as it is listened to. -/
  | running (exited : Bool)
  | failed (error : ServerError)
  | timedOut
  deriving DecidableEq, Inhabited

namespace Registry

def beginAttempt (r : Registry) (e : Nat) (entry : Entry) : Registry :=
  let generation := entry.slot.generation + 1
  let slot := { entry.slot with state := .starting r.attempts.length, generation }
  let attempt : StartAttempt := ⟨e, generation, none⟩
  let r := { r with attempts := r.attempts ++ [attempt] }
  (r.modifyEntry e ({ · with slot })).note (.spawning e)

def endAttempt (r : Registry) (a : Nat) (outcome : Except ServerError Nat) : Registry :=
  { r with attempts := r.attempts.modify a ({ · with outcome := some outcome }) }

/-- The server of a handle has exited. Only the server that its entry has now counts. -/
def exit (r : Registry) (h : Nat) : Registry :=
  match r.handles[h]? with
  | none => r
  | some handle =>
    match r.entries[handle.entry]? with
    | none => r
    | some entry =>
      if handle.attended && entry.slot.generation == handle.generation then
        match entry.slot.state with
        | .started h =>
          let r := r.modifyEntry handle.entry fun e =>
            { e.withState .notStarted with opened := [] }
          (r.note (.exited h)).dispose h
        | _ => r
      else r

def failAttempt (r : Registry) (a : Nat) (attempt : StartAttempt) (current : Bool)
    (error : ServerError) : Registry :=
  let r := r.endAttempt a (.error error)
  if current then
    let r := r.modifyEntry attempt.entry fun e =>
      { e with slot := { e.slot with state := .notStarted, unusable := !error.isRetryable } }
    r.note (.startFailed attempt.entry error)
  else r

/-- A start attempt brought up a server, which takes its place unless a shutdown came in
between. -/
def install (r : Registry) (a : Nat) (attempt : StartAttempt) (id : String)
    (current exited : Bool) : Registry :=
  let h := r.handles.length
  let handle : Handle := ⟨attempt.entry, attempt.generation, current, false⟩
  let r := { r with handles := r.handles ++ [handle] }
  if current then
    let r := (r.modifyEntry attempt.entry fun e =>
      { e.withState (.started h) with opened := [] }).endAttempt a (.ok h)
    if exited then r.exit h else r
  else
    (r.dispose h).endAttempt a (.error (.transport id "registry shut down during startup"))

def spawned (r : Registry) (a : Nat) (outcome : SpawnOutcome) : Registry :=
  match r.attempts[a]? with
  | none => r
  | some attempt =>
    match r.entries[attempt.entry]?, attempt.outcome with
    | some entry, none =>
      let current := entry.slot.generation == attempt.generation
      match outcome with
      | .running exited => r.install a attempt entry.config.id current exited
      | .failed error => r.failAttempt a attempt current error
      | .timedOut =>
        r.failAttempt a attempt current (.handshakeTimeout entry.config.id r.handshakeMs)
    | _, _ => r

def takeAll (r : Registry) : Registry × List Nat :=
  let handles := r.entries.filterMap Entry.handle?
  let entries := r.entries.map fun e =>
    { e with
      slot := { e.slot with state := .notStarted, generation := e.slot.generation + 1 }
      opened := [] }
  let r := { r with entries }.note .shutdownAll
  (handles.foldl (fun r h => r.note (.shuttingDown h)) r, handles)

end Registry
end Switchyard
