import Mathlib.Logic.Relation
import Switchyard.Proofs.Positions
import Switchyard.Proofs.Rpc.Turns

namespace Switchyard.Rpc

/-- What a call holds of a request: nothing, its id, or a request that is registered under it. -/
inductive Hold where
  | nothing
  | number (id : Nat)
  | request (id : Nat)
  deriving DecidableEq

def CallStage.hold : CallStage → Hold
  | .numbered id _ => .number id
  | .registered id _ | .requesting id _ | .waiting id | .abandoning id _ => .request id
  | .begun | .answered | .notifying _ | .done _ => .nothing

namespace ClientEvent

def isQuiet : ClientEvent → Bool
  | .numbered _ _ | .requested _ _ | .expired _ _ | .cutOff | .settled _ _ _
  | .dispatched (.response _ _) => false
  | _ => true

def isNumber : ClientEvent → Bool
  | .numbered _ _ => true
  | _ => false

def Numbers (id : Nat) (e : ClientEvent) : Prop := ∃ k, e = .numbered k id

def Registers (id : Nat) (e : ClientEvent) : Prop := ∃ k, e = .requested k id

def Settles (id : Nat) (e : ClientEvent) : Prop := ∃ k outcome, e = .settled k id outcome

def ending? : ClientEvent → Option (Nat × Nat × Except RequestError Json)
  | .settled k id outcome => some (k, id, outcome)
  | _ => none

theorem ending?_eq_some {e : ClientEvent} {k id : Nat} {outcome : Except RequestError Json} :
    e.ending? = some (k, id, outcome) ↔ e = .settled k id outcome := by
  cases e <;> simp [ending?]

end ClientEvent

/-- The requests of a client, apart from its queue, its handlers and the bytes that come in. -/
structure Requests where
  nextId : Nat
  pending : List Nat
  answers : List (Nat × Json)
  active : List Hold
  log : List ClientEvent

namespace Requests

def Ends (r : Requests) (id : Nat) : Except RequestError Json → Prop
  | .ok body => (id, body) ∈ r.answers
  | .error _ => id ∉ r.pending

/-- What can happen to requests, in a step of a call or in one of nobody's. -/
inductive Change (r : Requests) : Option Nat → Requests → Prop
  | call : Change r none { r with active := r.active ++ [.nothing] }
  | note {who : Option Nat} {e : ClientEvent} (he : e.isQuiet = true) :
      Change r who { r with log := r.log ++ [e] }
  | number {k : Nat} (hk : r.active[k]? = some .nothing) :
      Change r (some k) { r with
        nextId := (r.nextId + 1) % Nat.pow 2 64
        active := r.active.set k (.number r.nextId)
        log := r.log ++ [.numbered k r.nextId] }
  | register {k id : Nat} (hk : r.active[k]? = some (.number id)) :
      Change r (some k) { r with
        pending := id :: r.pending
        active := r.active.set k (.request id)
        log := r.log ++ [.requested k id] }
  | expire {k id : Nat} (hk : r.active[k]? = some (.request id)) (hp : id ∈ r.pending) :
      Change r (some k) { r with log := r.log ++ [.expired k id] }
  | forget {k id : Nat} (hk : r.active[k]? = some (.request id)) :
      Change r (some k) { r with pending := r.pending.filter (· != id) }
  | cutOff : Change r none { r with pending := [], log := r.log ++ [.cutOff] }
  | answer {id : Nat} (body : Json) (h : id ∈ r.pending) :
      Change r none { r with
        pending := r.pending.filter (· != id)
        answers := (id, body) :: r.answers
        log := r.log ++ [.dispatched (.response id body)] }
  | ignore {id : Nat} (body : Json) (h : id ∉ r.pending) :
      Change r none { r with log := r.log ++ [.dispatched (.response id body)] }
  | settle {k id : Nat} {outcome : Except RequestError Json}
      (hk : r.active[k]? = some (.request id)) (ho : r.Ends id outcome) :
      Change r (some k) { r with
        active := r.active.set k .nothing
        log := r.log ++ [.settled k id outcome] }

abbrev Changes (who : Option Nat) : Requests → Requests → Prop :=
  Relation.ReflTransGen fun r => Change r who

variable {r r' : Requests} {k : Nat} {who : Option Nat}

theorem set_active {hold : Hold} (hk : r.active[k]? = some hold) :
    { r with active := r.active.set k hold } = r := by
  obtain ⟨hlt, he⟩ := List.getElem?_eq_some_iff.1 hk
  rw [← he, List.set_getElem_self]

end Requests

open Requests

namespace Client

variable {c d : Client} {k id : Nat} {op : Operation} {stage : CallStage} {who : Option Nat}

def requests (c : Client) : Requests where
  nextId := c.nextId
  pending := c.pending
  answers := c.answers
  active := c.calls.map (·.stage.hold)
  log := c.history.reverse

theorem requests_push (c : Client) (e : ClientEvent) :
    (c.push e).requests = { c.requests with log := c.requests.log ++ [e] } := by
  simp [requests, push]

theorem requests_setStage (c : Client) (k : Nat) (stage : CallStage) :
    (c.setStage k stage).requests =
      { c.requests with active := c.requests.active.set k stage.hold } := by
  have ha : (c.calls.modify k ({ · with stage })).map (·.stage.hold) =
      (c.calls.map (·.stage.hold)).set k stage.hold := by
    apply List.ext_getElem?
    intro i
    rw [List.getElem?_map, List.getElem?_modify, List.getElem?_set, List.getElem?_map]
    by_cases hi : k = i
    · subst hi
      cases hc : c.calls[k]? <;> grind
    · simp [hi]
  simp only [requests, setStage, ha]

theorem active_of_call {call : Call} (hc : c.calls[k]? = some call) :
    c.requests.active[k]? = some call.stage.hold := by
  simp [requests, hc]

theorem requests_setStage_same (stage : CallStage) (hk : c.requests.active[k]? = some stage.hold) :
    (c.setStage k stage).requests = c.requests := by
  rw [requests_setStage, set_active hk]

theorem changes_push (c : Client) {e : ClientEvent} (he : e.isQuiet = true) :
    Changes who c.requests (c.push e).requests := by
  rw [requests_push]
  exact .single (.note he)

theorem changes_enqueue (c : Client) (frame : Json) :
    Changes who c.requests (c.enqueue frame).requests :=
  changes_push { c with queue := c.queue ++ [frame] } rfl

theorem changes_complete (hk : c.requests.active[k]? = some .nothing)
    (result : Except ServerError Unit) :
    Changes who c.requests (c.complete k result).requests := by
  have hs : (c.setStage k (.done result)).requests = c.requests := requests_setStage_same _ hk
  rw [← hs]
  exact changes_push _ rfl

theorem requests_settle (c : Client) (k id : Nat) (outcome : Except RequestError Json)
    (stage : CallStage) (hs : stage.hold = .nothing) :
    ((c.push (.settled k id outcome)).setStage k stage).requests =
      { c.requests with
        active := c.requests.active.set k .nothing
        log := c.requests.log ++ [.settled k id outcome] } := by
  rw [requests_setStage, requests_push, hs]

theorem changes_conclude {outcome : Except RequestError Json}
    (hk : c.requests.active[k]? = some (.request id)) (ho : c.requests.Ends id outcome) :
    Changes (some k) c.requests (c.conclude k op id outcome).requests := by
  have settle (stage : CallStage) (hs : stage.hold = .nothing) : Change c.requests (some k)
      ((c.push (.settled k id outcome)).setStage k stage).requests := by
    rw [requests_settle c k id outcome stage hs]
    exact .settle hk ho
  obtain hd | ⟨result, hd⟩ := conclude_cases c k op id outcome <;> rw [hd]
  · exact .single (settle .answered rfl)
  · exact .head (settle (.done result) rfl) (changes_push _ rfl)

/-- A call goes on, and with what it holds of a request it does only what can happen to requests. -/
theorem Turn.changes (h : Turn c k op stage d) (hk : c.requests.active[k]? = some stage.hold) :
    Changes (some k) c.requests d.requests := by
  cases h with
  | stay => exact .refl
  | unnamed ho hu => exact changes_complete hk _
  | turnedAway hs hd =>
    obtain rfl | rfl := hs <;> exact changes_complete hk _
  | number hd hf =>
    rw [requests_setStage, requests_push]
    exact .single (.number hk)
  | register id frame =>
    rw [Client.register, requests_setStage, requests_push]
    exact .single (.register hk)
  | giveUp hs =>
    obtain ⟨rfl, -⟩ | ⟨rfl, -⟩ := hs <;>
      rw [requests_setStage_same (.abandoning _ _) hk]
  | proceed id frame hs => rw [requests_setStage_same (.requesting id frame) hk]
  | ask id frame hw hf =>
    have hs : (c.setStage k (.waiting id)).requests = c.requests := requests_setStage_same _ hk
    rw [← hs]
    exact changes_enqueue (c.setStage k (.waiting id)) frame
  | @answer id body ha =>
    obtain ⟨before, after, he, -⟩ := List.lookup_eq_some_iff.1 ha
    have hm : (id, body) ∈ c.answers := he ▸ List.mem_append_right _ List.mem_cons_self
    exact changes_conclude hk hm
  | cut id ha hp => exact changes_conclude hk hp
  | late id hp =>
    have hl : Change c.requests (some k) (c.push (.expired k id)).requests := by
      rw [requests_push]
      exact .expire hk hp
    rw [requests_setStage_same (c := c.push (.expired k id)) (.abandoning id .timeout) hk]
    exact .single hl
  | abandon id e =>
    have ho : (c.forget id).requests.Ends id (.error e) := by
      simp [Ends, requests, forget]
    exact .head (.forget hk) (changes_conclude (c := c.forget id) hk ho)
  | prepare hs hd =>
    obtain rfl | ⟨rfl, -⟩ := hs <;> rw [requests_setStage_same (.notifying _) hk]
  | refuse frame hw => exact changes_complete hk _
  | say frame hw hf =>
    exact (changes_enqueue c frame).trans (changes_complete (c := c.enqueue frame) hk _)

theorem changes_offerReply (c : Client) (reply : Json) :
    Changes who c.requests (c.offerReply reply).requests := by
  unfold offerReply
  split
  · rfl
  · split
    · rfl
    · exact changes_enqueue { c with reader := .reading } reply

theorem changes_dispatch (c : Client) (m : Incoming) :
    Changes none c.requests (c.dispatch m).requests := by
  unfold dispatch
  cases m with
  | response id body =>
    dsimp only
    split
    · rename_i hp
      have hm : id ∈ c.requests.pending := List.contains_iff_mem.1 hp
      have hr : Changes none _ _ := .single (.answer body hm)
      simpa only [requests, push, forget, List.reverse_cons] using hr
    · rename_i hp
      have hm : id ∉ c.requests.pending := fun h => hp (List.contains_iff_mem.2 h)
      rw [requests_push]
      exact .single (.ignore body hm)
  | request id method params =>
    exact changes_push c (e := .dispatched (.request id method params)) rfl
  | notification method params =>
    have hd : Changes none c.requests
        (c.push (.dispatched (.notification method params))).requests :=
      changes_push c rfl
    dsimp only
    split <;> exact hd

theorem changes_cutOff (c : Client) : Changes none c.requests c.cutOff.requests := by
  rw [cutOff, requests_push]
  exact .single .cutOff

theorem changes_read (c : Client) : Changes none c.requests c.read.requests := by
  unfold read
  split
  · split
    · rename_i m rest _
      exact changes_dispatch { c with unread := rest } m
    · rfl
    · rfl
    · rfl
  · exact changes_offerReply c _
  · exact changes_push { c with reader := .reading } rfl
  · exact changes_cutOff { c with reader := _ }
  · exact changes_push { c with reader := .gone } rfl
  · rfl

theorem requests_step (c : Client) (a : ClientAction) :
    Changes a.call? c.requests (c.step a).requests := by
  cases ha : a.call? with
  | some k =>
    cases hk : c.calls[k]? with
    | none =>
      rw [step_of_missing ha hk]
    | some call => exact (turn_step hk ha).changes (active_of_call hk)
  | none =>
    cases a with
    | resume | expire => cases ha
    | call op =>
      have hc : Changes none _ _ := .single (.call (r := c.requests))
      simpa only [requests, step, List.map_append, List.map_singleton, CallStage.hold] using hc
    | read => exact changes_read c
    | onExit handler =>
      rw [step, onExit]
      split
      · exact changes_push c rfl
      · rfl
    | tearDown =>
      rw [step, tearDown]
      split
      · exact changes_cutOff { c with disposal := .cleared }
      · rfl
      · rfl
      · rfl
    | receive | failWrite | dispose | cancelWriter =>
      rw [step]
      first | (split <;> rfl) | (rw [cancelWriter]; split <;> rfl)
    | cancelReader =>
      rw [step, cancelReader]
      split
      · split <;> rfl
      · split <;> rfl
      · rfl
    | endStream | write | onNotification => rfl

end Client
end Switchyard.Rpc
