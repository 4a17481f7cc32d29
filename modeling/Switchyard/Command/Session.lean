import Switchyard.Machine.Program
import Switchyard.Registry

namespace Switchyard

structure Session where
  machine : Machine
  registry : Registry
  links : List (Nat × Rpc.Link)
  started : Nat
  deriving Inhabited

namespace Session

def ofRegistry (machine : Machine) (registry : Registry) : Session := ⟨machine, registry, [], 0⟩

def act (s : Session) (a : RegistryAction) : Session := { s with registry := s.registry.step a }

def setLink (s : Session) (h : Nat) (link : Rpc.Link) : Session :=
  { s with links := s.links.map fun l => if l.1 = h then (h, link) else l }

def observe (s : Session) (h : Nat) (link : Rpc.Link) : Session :=
  let s := link.client.history.reverse.foldl (fun s e =>
    match e with
    | .notified _ method params => s.act (.notify h method params)
    | .stopped _ _ => s.act (.exit h)
    | _ => s) s
  let disposed := ((s.registry.handles[h]?).map (·.disposed)).getD false
  let link := link.forgetHistory
  s.setLink h (if disposed then link.act .dispose else link)

def settle (s : Session) : Session :=
  s.links.foldl (fun s l => s.observe l.1 l.2.settle) s

def startNext (s : Session) : Session :=
  match s.registry.attempts[s.started]? with
  | none => s
  | some attempt =>
    let a := s.started
    let s := { s with started := a + 1 }.settle
    match s.registry.entries[attempt.entry]? with
    | none => s
    | some entry =>
      match s.machine.spawn entry.config s.registry.root s.registry.handshakeMs with
      | .error e => s.act (.spawned a (.failed e))
      | .ok link =>
        let link := (link.act (.onNotification 0)).act (.onExit 0)
        let s := { s with links := s.links ++ [(s.registry.handles.length, link.forgetHistory)] }
        s.act (.spawned a (.running link.client.stopped.isSome))

def tell (s : Session) (h : Nat) (notice : Notice) : Session × Bool :=
  match s.links.lookup h with
  | none => (s, false)
  | some link =>
    let (link, k) := link.begin (.notify notice.method notice.params)
    let link := if (link.result? k).isNone then link.settle else link
    (s.setLink h link, ((link.result? k).map (·.isOk)).getD false)

def stage (s : Session) (t : Nat) : TaskStage :=
  ((s.registry.tasks[t]?).map (·.stage)).getD (.done (.ok .nothing))

def deliver (t : Nat) (s : Session) (d : Nat) : Session :=
  let s := ((s.act (.deliver t d)).startNext).act (.deliver t d)
  match s.stage t with
  | .routing _ ds =>
    match ds[d]? with
    | some ⟨_, .sending h notice⟩ =>
      let (s, accepted) := s.tell h notice
      s.act (.sent t d accepted)
    | _ => s
  | _ => s

def shutdownMs : Nat := 2000

def close (t : Nat) (s : Session) (h : Nat) : Session :=
  let s :=
    match s.links.lookup h with
    | some link => s.setLink h (((link.run .shutdown shutdownMs).1).act .dispose)
    | none => s
  s.act (.closed t h)

def call (s : Session) (call : RegistryCall) : Session × Except ServerError RegistryReply :=
  let t := s.registry.tasks.length
  let s := (s.act (.call call)).act (.resume t)
  let s :=
    match s.stage t with
    | .reading _ path _ => s.act (.read t (s.machine.files.readText path))
    | _ => s
  let s :=
    match s.stage t with
    | .routing _ ds => (List.range ds.length).foldl (deliver t) s
    | .closing handles => handles.foldl (close t) s
    | _ => s
  match s.stage t with
  | .done result => (s, result)
  | _ => (s, .ok .nothing)

end Session
end Switchyard
