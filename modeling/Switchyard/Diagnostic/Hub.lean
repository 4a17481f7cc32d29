import Switchyard.Diagnostic.Store
import Switchyard.Number.Natural

namespace Switchyard

/-- An event on its way to the listeners that were there when it was emitted. -/
structure Emission where
  serial : Nat
  event : DiagnosticsEvent
  waiting : List Nat
  deriving DecidableEq, Inhabited

/-- A listener has been called with the event of an emission. -/
structure Receipt where
  serial : Nat
  listener : Nat
  event : DiagnosticsEvent
  deriving DecidableEq, Inhabited

inductive HubCall where
  | upsert (uri client : String) (items : List Diagnostic) (version : Option Int32)
  | clear (uri : String) (client : Option String)
  | subscribe
  | unsubscribe (listener : Nat)
  deriving DecidableEq, Inhabited

structure DiagnosticsHub where
  store : DiagnosticsStore
  listeners : List Nat
  nextListener : Nat
  nextSerial : Nat
  emissions : List Emission
  received : List Receipt
  deriving Inhabited

namespace DiagnosticsHub

def empty : DiagnosticsHub := ⟨.empty, [], 0, 0, [], []⟩

def emit (h : DiagnosticsHub) (event : DiagnosticsEvent) : DiagnosticsHub :=
  { h with
    nextSerial := h.nextSerial + 1
    emissions := ⟨h.nextSerial, event, h.listeners⟩ :: h.emissions }

def call (h : DiagnosticsHub) : HubCall → DiagnosticsHub
  | .upsert uri client items version =>
    let (store, event) := h.store.upsert uri client items version
    { h with store }.emit event
  | .clear uri client =>
    match h.store.clear uri client with
    | (store, some event) => { h with store }.emit event
    | (_, none) => h
  | .subscribe =>
    { h with listeners := h.listeners ++ [h.nextListener], nextListener := h.nextListener + 1 }
  | .unsubscribe listener => { h with listeners := h.listeners.filter (· != listener) }

/-- Goes on with the innermost emission: calls its next listener, or ends it. -/
def advance (h : DiagnosticsHub) : Option (DiagnosticsHub × Option Receipt) :=
  match h.emissions with
  | [] => none
  | ⟨_, _, []⟩ :: rest => some ({ h with emissions := rest }, none)
  | ⟨serial, event, listener :: waiting⟩ :: rest =>
    let receipt := ⟨serial, listener, event⟩
    some ({ h with
      emissions := ⟨serial, event, waiting⟩ :: rest
      received := receipt :: h.received }, some receipt)

def pending (h : DiagnosticsHub) : Nat :=
  Natural.total (h.emissions.map fun e => e.waiting.length + 1)

theorem pending_advance {h h' : DiagnosticsHub} {r : Option Receipt}
    (step : h.advance = some (h', r)) : h'.pending + 1 = h.pending := by
  unfold advance at step
  split at step
  · contradiction
  all_goals
    rename_i he
    simp at step
    simp [pending, Natural.total, he, ← step.1]
    omega

def settle (h : DiagnosticsHub) : DiagnosticsHub :=
  match _h : h.advance with
  | none => h
  | some (h', _) => h'.settle
termination_by h.pending
decreasing_by
  have := pending_advance _h
  omega

def use (h : DiagnosticsHub) (c : HubCall) : DiagnosticsHub := (h.call c).settle

end DiagnosticsHub
end Switchyard
