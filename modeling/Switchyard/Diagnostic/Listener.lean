import Switchyard.Diagnostic.Hub

namespace Switchyard

inductive ListenerKind where
  | record
  | failing
  | query
  | unsubscribe (target : Option Nat)
  | subscribe
  /-- Clears the document, or a client's slice of it, at its first event. -/
  | clear (client : Option String)
  deriving DecidableEq, Inhabited

inductive ListenerNote where
  | event (event : DiagnosticsEvent)
  /-- The number of diagnostics of the document, and the documents of the store. -/
  | state (count : Option Nat) (uris : List String)
  deriving DecidableEq, Inhabited

/-- A hub, the kinds of all listeners that were ever registered, and what they logged. -/
structure ListenerRun where
  hub : DiagnosticsHub
  kinds : List ListenerKind
  called : List Nat
  log : List (Nat × ListenerNote)
  deriving Inhabited

namespace ListenerRun

def empty : ListenerRun := ⟨.empty, [], [], []⟩

def note (r : ListenerRun) (listener : Nat) (n : ListenerNote) : ListenerRun :=
  { r with log := (listener, n) :: r.log }

def subscribe (r : ListenerRun) (kind : ListenerKind) : ListenerRun :=
  { r with hub := r.hub.call .subscribe, kinds := r.kinds ++ [kind] }

def react (r : ListenerRun) (receipt : Receipt) (first : Bool) : ListenerKind → ListenerRun
  | .record | .failing => r
  | .query =>
    let count := (r.hub.store.get? receipt.event.uri).map fun f => f.all.length
    r.note receipt.listener (.state count r.hub.store.uris)
  | .unsubscribe target =>
    { r with hub := r.hub.call (.unsubscribe (target.getD receipt.listener)) }
  | .subscribe => if first then r.subscribe .record else r
  | .clear client =>
    if first then { r with hub := r.hub.call (.clear receipt.event.uri client) } else r

def advance (r : ListenerRun) : Option ListenerRun :=
  match r.hub.advance with
  | none => none
  | some (hub, none) => some { r with hub }
  | some (hub, some receipt) =>
    let first := !r.called.contains receipt.listener
    let r := { r with hub, called := receipt.listener :: r.called }
    let r := r.note receipt.listener (.event receipt.event)
    some (r.react receipt first ((r.kinds[receipt.listener]?).getD .record))

def advanceN : Nat → ListenerRun → ListenerRun
  | 0, r => r
  | n + 1, r =>
    match r.advance with
    | none => r
    | some r => advanceN n r

/-- A bound on the deliveries to come: every listener can add an emission or a listener once. -/
def bound (r : ListenerRun) : Nat :=
  let n := r.kinds.length
  r.hub.pending + n + n * (2 * n + 1)

def use (r : ListenerRun) (c : HubCall) : ListenerRun :=
  let r := { r with hub := r.hub.call c }
  advanceN r.bound r

end ListenerRun
end Switchyard
