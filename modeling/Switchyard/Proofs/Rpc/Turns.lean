import Switchyard.Rpc.Client

namespace Switchyard.Rpc

namespace Operation

/-- The operation starts with a request, unless it fails before that. -/
def Requests : Operation → Prop
  | .handshake root _ => (Uri.ofPath? root).isSome = true
  | .shutdown => True
  | .notify _ _ => False

def opening? (processId id : Nat) : Operation → Option Json
  | .handshake root _ => (Uri.ofPath? root).map fun uri =>
    request id "initialize" (some (initializeParams (.nat processId) uri (workspaceName root)))
  | .shutdown => some (request id "shutdown" none)
  | .notify _ _ => none

end Operation

def ClientAction.call? : ClientAction → Option Nat
  | .resume k | .expire k => some k
  | _ => none

namespace CallStage

def isBegun : CallStage → Bool
  | .begun => true
  | _ => false

def isDone : CallStage → Bool
  | .done _ => true
  | _ => false

def left : CallStage → Nat
  | .begun => 7
  | .numbered _ _ => 6
  | .registered _ _ => 5
  | .requesting _ _ => 4
  | .waiting _ => 3
  | .answered => 2
  | .abandoning _ _ | .notifying _ => 1
  | .done _ => 0

theorem isBegun_iff (stage : CallStage) : stage.isBegun = true ↔ stage.left = 7 := by
  cases stage <;> simp [isBegun, left]

theorem isDone_iff (stage : CallStage) : stage.isDone = true ↔ stage.left = 0 := by
  cases stage <;> simp [isDone, left]

theorem left_le (stage : CallStage) : stage.left ≤ 7 := by
  cases stage <;> simp [left]

end CallStage

namespace Client

variable {c d : Client} {j k id : Nat} {op : Operation} {stage : CallStage} {a : ClientAction}

inductive Turn (c : Client) (k : Nat) (op : Operation) : CallStage → Client → Prop
  | stay (stage : CallStage) : Turn c k op stage c
  | unnamed {root : Path} {ms : Nat} (ho : op = .handshake root ms)
    (hu : Uri.ofPath? root = none) :
    Turn c k op .begun (c.complete k (.error (.handshake c.server (Uri.noUriMessage root))))
  | turnedAway {stage : CallStage} (hs : stage = .begun ∨ stage = .answered)
    (hd : c.disposed = true) :
    Turn c k op stage (c.complete k (op.failure c.server .closed))
  | number {frame : Json} (hd : c.disposed = false)
    (hf : op.opening? c.processId c.nextId = some frame) :
    Turn c k op .begun
      (({ c with nextId := (c.nextId + 1) % Nat.pow 2 64 }.push (.numbered k c.nextId)).setStage k
        (.numbered c.nextId frame))
  | register (id : Nat) (frame : Json) : Turn c k op (.numbered id frame) (c.register k id frame)
  | giveUp {stage : CallStage} {id : Nat} {frame : Json}
    (hs : stage = .registered id frame ∧ c.stopped.isSome = true ∨
      stage = .requesting id frame ∧ c.writerOpen = false) :
    Turn c k op stage (c.setStage k (.abandoning id .closed))
  | proceed (id : Nat) (frame : Json) (hs : c.stopped = none) :
    Turn c k op (.registered id frame) (c.setStage k (.requesting id frame))
  | ask (id : Nat) (frame : Json) (hw : c.writerOpen = true) (hf : c.isFull = false) :
    Turn c k op (.requesting id frame) ((c.enqueue frame).setStage k (.waiting id))
  | answer (id : Nat) {body : Json} (ha : c.answers.lookup id = some body) :
    Turn c k op (.waiting id) (c.conclude k op id (.ok body))
  | cut (id : Nat) (ha : c.answers.lookup id = none) (hp : id ∉ c.pending) :
    Turn c k op (.waiting id) (c.conclude k op id (.error .closed))
  | late (id : Nat) (hp : id ∈ c.pending) :
    Turn c k op (.waiting id) ((c.push (.expired k id)).setStage k (.abandoning id .timeout))
  | abandon (id : Nat) (e : RequestError) :
    Turn c k op (.abandoning id e) ((c.forget id).conclude k op id (.error e))
  | prepare {stage : CallStage} (hs : stage = .answered ∨ stage = .begun ∧ ¬ op.Requests)
    (hd : c.disposed = false) : Turn c k op stage (c.setStage k (.notifying op.sequel))
  | refuse (frame : Json) (hw : c.writerOpen = false) :
    Turn c k op (.notifying frame) (c.complete k (op.failure c.server .closed))
  | say (frame : Json) (hw : c.writerOpen = true) (hf : c.isFull = false) :
    Turn c k op (.notifying frame) ((c.enqueue frame).complete k (.ok ()))

theorem turn_takeId {method : String} {params : Option Json}
    (ho : op.opening? c.processId c.nextId = some (request c.nextId method params)) :
    Turn c k op .begun (c.takeId k op method params) := by
  unfold takeId
  split
  · rename_i hd
    exact .turnedAway (.inl rfl) hd
  · rename_i hd
    exact .number (Bool.eq_false_iff.2 hd) ho

theorem turn_beginNotification (hs : stage = .answered ∨ stage = .begun ∧ ¬ op.Requests) :
    Turn c k op stage (c.beginNotification k op) := by
  unfold beginNotification
  split
  · rename_i hd
    exact .turnedAway (hs.symm.imp_left And.left) hd
  · rename_i hd
    exact .prepare hs (Bool.eq_false_iff.2 hd)

theorem turn_start (c : Client) (k : Nat) (op : Operation) :
    Turn c k op .begun (c.start k op) := by
  cases op with
  | notify method params => exact turn_beginNotification (.inr ⟨rfl, not_false⟩)
  | shutdown => exact turn_takeId rfl
  | handshake root ms =>
    unfold start
    dsimp only
    split
    · rename_i hu
      exact .unnamed rfl hu
    · rename_i uri hu
      exact turn_takeId (by rw [Operation.opening?, hu]; rfl)

theorem turn_awaitAnswer (c : Client) (k : Nat) (op : Operation) (id : Nat) :
    Turn c k op (.waiting id) (c.awaitAnswer k op id) := by
  unfold awaitAnswer
  split
  · rename_i ha
    exact .answer id ha
  · rename_i ha
    split
    · exact .stay _
    · rename_i hp
      exact .cut id ha fun h => hp (List.contains_iff_mem.2 h)

theorem resume_eq {call : Call} (hk : c.calls[k]? = some call) :
    c.resume k =
      match call.stage with
      | .begun => c.start k call.operation
      | .numbered id frame => c.register k id frame
      | .registered id frame => c.checkStopped k id frame
      | .requesting id frame => c.offerRequest k id frame
      | .waiting id => c.awaitAnswer k call.operation id
      | .abandoning id e => (c.forget id).conclude k call.operation id (.error e)
      | .answered => c.beginNotification k call.operation
      | .notifying frame => c.offerNotification k call.operation frame
      | .done _ => c := by
  obtain ⟨op, stage⟩ := call
  cases stage <;> simp only [resume, hk]

theorem turn_resume (hk : c.calls[k]? = some ⟨op, stage⟩) : Turn c k op stage (c.resume k) := by
  rw [resume_eq hk]
  cases stage with
  | begun => exact turn_start c k op
  | numbered id frame => exact .register id frame
  | registered id frame =>
    dsimp only [checkStopped]
    split
    · rename_i hs
      exact .giveUp (.inl ⟨rfl, hs⟩)
    · rename_i hs
      exact .proceed id frame (by simpa using hs)
  | requesting id frame =>
    dsimp only [offerRequest]
    split
    · rename_i hw
      exact .giveUp (.inr ⟨rfl, by simpa using hw⟩)
    · rename_i hw
      split
      · exact .stay _
      · rename_i hf
        exact .ask id frame (by simpa using hw) (Bool.eq_false_iff.2 hf)
  | waiting id => exact turn_awaitAnswer c k op id
  | abandoning id e => exact .abandon id e
  | answered => exact turn_beginNotification (.inl rfl)
  | notifying frame =>
    dsimp only [offerNotification]
    split
    · rename_i hw
      exact .refuse frame (by simpa using hw)
    · rename_i hw
      split
      · exact .stay _
      · rename_i hf
        exact .say frame (by simpa using hw) (Bool.eq_false_iff.2 hf)
  | done result => exact .stay _

theorem turn_expire (hk : c.calls[k]? = some ⟨op, stage⟩) : Turn c k op stage (c.expire k) := by
  unfold expire
  rw [hk]
  cases stage with
  | waiting id =>
    dsimp only
    split
    · rename_i hp
      exact .late id (List.contains_iff_mem.1 hp)
    · exact turn_awaitAnswer c k op id
  | _ => exact .stay _

theorem turn_step (hk : c.calls[k]? = some ⟨op, stage⟩) (ha : a.call? = some k) :
    Turn c k op stage (c.step a) := by
  cases a with
  | resume j =>
    cases ha
    exact turn_resume hk
  | expire j =>
    cases ha
    exact turn_expire hk
  | _ => cases ha

/-- A call that is not there does not go on, and neither does one that is at its end. -/
theorem step_of_done (ha : a.call? = some j)
    (h : ∀ op stage, c.calls[j]? = some ⟨op, stage⟩ → stage.isDone = true) : c.step a = c := by
  have hcases : c.calls[j]? = none ∨ ∃ op result, c.calls[j]? = some ⟨op, .done result⟩ := by
    cases hj : c.calls[j]? with
    | none => exact .inl rfl
    | some call =>
      obtain ⟨op, stage⟩ := call
      have hdone := h op stage hj
      cases stage with
      | done result => exact .inr ⟨op, result, rfl⟩
      | _ => cases hdone
  cases a with
  | resume k =>
    cases ha
    obtain hj | ⟨op, result, hj⟩ := hcases <;> rw [step, resume, hj]
  | expire k =>
    cases ha
    obtain hj | ⟨op, result, hj⟩ := hcases <;> rw [step, expire, hj]
  | _ => cases ha

theorem step_of_missing (ha : a.call? = some j) (hj : c.calls[j]? = none) : c.step a = c :=
  step_of_done ha fun op stage h => by rw [hj] at h; cases h

theorem getElem?_setStage (c : Client) (k : Nat) (stage : CallStage) (i : Nat) :
    (c.setStage k stage).calls[i]? =
      (if k = i then (c.calls[i]?).map ({ · with stage }) else c.calls[i]?) := by
  rw [setStage, List.getElem?_modify]
  split
  · rfl
  · exact Option.map_id'

theorem call_setStage (hk : c.calls[k]? = some ⟨op, stage⟩) (new : CallStage) :
    (c.setStage k new).calls[k]? = some ⟨op, new⟩ := by
  rw [getElem?_setStage, if_pos rfl, hk]
  rfl

theorem call_of_setStage {call : Call} (hk : c.calls[k]? = some ⟨op, stage⟩) {new : CallStage}
    (hd : d.calls = (c.setStage k new).calls) (hj : d.calls[j]? = some call) :
    j = k ∧ call = ⟨op, new⟩ ∨ c.calls[j]? = some call := by
  rw [hd, getElem?_setStage] at hj
  split at hj
  · rename_i hkj
    subst hkj
    rw [hk] at hj
    cases hj
    exact .inl ⟨rfl, rfl⟩
  · exact .inr hj

theorem conclude_cases (c : Client) (k : Nat) (op : Operation) (id : Nat)
    (outcome : Except RequestError Json) :
    c.conclude k op id outcome = (c.push (.settled k id outcome)).setStage k .answered ∨
      ∃ result, c.conclude k op id outcome =
        (c.push (.settled k id outcome)).complete k result := by
  unfold conclude
  split
  · exact .inr ⟨_, rfl⟩
  · split
    · exact .inr ⟨_, rfl⟩
    · exact .inl rfl

theorem Turn.calls (h : Turn c k op stage d) :
    d = c ∨ ∃ stage', stage'.left < stage.left ∧ d.calls = (c.setStage k stage').calls := by
  cases h with
  | stay => exact .inl rfl
  | answer id | cut id =>
    obtain hd | ⟨result, hd⟩ := conclude_cases c k op id _ <;> rw [hd]
    · exact .inr ⟨.answered, Nat.lt_succ_self 2, rfl⟩
    · exact .inr ⟨.done result, Nat.zero_lt_succ 2, rfl⟩
  | abandon id e => exact .inr ⟨.done _, Nat.zero_lt_one, rfl⟩
  | turnedAway hs | prepare hs =>
    obtain hs | hs := hs <;> exact .inr ⟨_, by simp [hs, CallStage.left], rfl⟩
  | giveUp hs =>
    obtain ⟨rfl, -⟩ | ⟨rfl, -⟩ := hs <;> exact .inr ⟨_, by simp [CallStage.left], rfl⟩
  | _ => exact .inr ⟨_, by simp [CallStage.left], rfl⟩

theorem Turn.others (h : Turn c k op stage d) (hj : j ≠ k) : d.calls[j]? = c.calls[j]? := by
  obtain rfl | ⟨stage', -, hc⟩ := h.calls
  · rfl
  · rw [hc, getElem?_setStage, if_neg hj.symm]

theorem Turn.call (h : Turn c k op stage d) (hk : c.calls[k]? = some ⟨op, stage⟩) :
    ∃ stage', d.calls[k]? = some ⟨op, stage'⟩ ∧ (d = c ∨ stage'.left < stage.left) := by
  obtain rfl | ⟨stage', hl, hc⟩ := h.calls
  · exact ⟨stage, hk, .inl rfl⟩
  · exact ⟨stage', hc ▸ call_setStage hk stage', .inr hl⟩

theorem Turn.length_calls (h : Turn c k op stage d) : d.calls.length = c.calls.length := by
  obtain rfl | ⟨stage', -, hc⟩ := h.calls
  · rfl
  · rw [hc, setStage, List.length_modify]

end Client
end Switchyard.Rpc
