import Switchyard.Proofs.Positions
import Switchyard.Proofs.Rpc.Turns

namespace Switchyard.Rpc

/-- What is there of requests and notifications, but not of replies. -/
def HasMethod (frame : Json) : Prop := (frame.get? "method").isSome = true

def CallStage.frame? : CallStage → Option Json
  | .numbered _ frame | .registered _ frame | .requesting _ frame | .notifying frame => some frame
  | _ => none

def ClientEvent.frame? : ClientEvent → Option Json
  | .queued frame => some frame
  | _ => none

theorem hasMethod_request (id : Nat) (method : String) (params : Option Json) :
    HasMethod (request id method params) := by
  cases params <;>
    simp [HasMethod, request, Json.present, Json.get?_ofMembers, Json.lookup_member]

theorem hasMethod_notification (method : String) (params : Option Json) :
    HasMethod (notification method params) := by
  cases params <;>
    simp [HasMethod, notification, Json.present, Json.get?_ofMembers, Json.lookup_member]

theorem hasMethod_sequel (op : Operation) : HasMethod op.sequel := by
  cases op <;> exact hasMethod_notification _ _

theorem hasMethod_opening {op : Operation} {processId id : Nat} {frame : Json}
    (h : op.opening? processId id = some frame) : HasMethod frame := by
  cases op with
  | handshake root ms =>
    obtain ⟨uri, -, rfl⟩ := Option.map_eq_some_iff.1 h
    exact hasMethod_request _ _ _
  | shutdown =>
    cases h
    exact hasMethod_request _ _ _
  | notify method params => cases h

namespace Client

variable {c c' c'' d : Client} {k : Nat} {op : Operation} {stage : CallStage}

/-- The connection without its calls, and without what only calls change. -/
def base (c : Client) : Client :=
  { c with nextId := 0, pending := [], queue := [], calls := [], history := [] }

def queued (c : Client) : List Json := c.history.reverse.filterMap ClientEvent.frame?

def Mine (c : Client) : ClientEvent → Prop
  | .queued _ => c.writerOpen = true
  | .dispatched _ | .notified _ _ _ | .stopped _ _ | .cutOff => False
  | _ => True

/-- The frames that calls have for the queue are requests and notifications. -/
def OwnFrames (c : Client) : Prop :=
  ∀ (k : Nat) (call : Call), c.calls[k]? = some call →
    ∀ frame, call.stage.frame? = some frame → HasMethod frame

structure Moves (c c' : Client) : Prop where
  base : c'.base = c.base
  events : ∃ new, c'.history = new ++ c.history ∧ ∀ e ∈ new, Mine c e
  queue : ∃ frames, (∀ frame ∈ frames, HasMethod frame) ∧ c'.queued = c.queued ++ frames ∧
    c'.queue = c.queue ++ frames
  frames : c.OwnFrames → c'.OwnFrames
  room : c.queue.length ≤ queueLimit → c'.queue.length ≤ queueLimit

namespace Moves

theorem refl (c : Client) : Moves c c where
  base := rfl
  events := ⟨[], rfl, nofun⟩
  queue := ⟨[], nofun, (List.append_nil _).symm, (List.append_nil _).symm⟩
  frames h := h
  room h := h

theorem server (h : Moves c c') : c'.server = c.server := (congrArg Client.server h.base :)

theorem processId (h : Moves c c') : c'.processId = c.processId :=
  (congrArg Client.processId h.base :)

theorem writerOpen (h : Moves c c') : c'.writerOpen = c.writerOpen :=
  (congrArg Client.writerOpen h.base :)

theorem disposal (h : Moves c c') : c'.disposal = c.disposal :=
  (congrArg Client.disposal h.base :)

theorem stopped (h : Moves c c') : c'.stopped = c.stopped := (congrArg Client.stopped h.base :)

theorem unread (h : Moves c c') : c'.unread = c.unread := (congrArg Client.unread h.base :)

theorem ended (h : Moves c c') : c'.ended = c.ended := (congrArg Client.ended h.base :)

theorem reader (h : Moves c c') : c'.reader = c.reader := (congrArg Client.reader h.base :)

theorem exitHandler (h : Moves c c') : c'.exitHandler = c.exitHandler :=
  (congrArg Client.exitHandler h.base :)

theorem trans (h : Moves c c') (h' : Moves c' c'') : Moves c c'' where
  base := h'.base.trans h.base
  events := by
    obtain ⟨new, hn, he⟩ := h.events
    obtain ⟨new', hn', he'⟩ := h'.events
    refine ⟨new' ++ new, by rw [hn', hn, List.append_assoc], ?_⟩
    refine List.forall_mem_append.2 ⟨fun e hm => ?_, he⟩
    have hmine := he' e hm
    unfold Mine at hmine ⊢
    rwa [h.writerOpen] at hmine
  queue := by
    obtain ⟨frames, hm, hn, hq⟩ := h.queue
    obtain ⟨frames', hm', hn', hq'⟩ := h'.queue
    refine ⟨frames ++ frames', List.forall_mem_append.2 ⟨hm, hm'⟩, ?_, ?_⟩
    · rw [hn', hn, List.append_assoc]
    · rw [hq', hq, List.append_assoc]
  frames hf := h'.frames (h.frames hf)
  room hr := h'.room (h.room hr)

end Moves

theorem queued_push (c : Client) (e : ClientEvent) :
    (c.push e).queued = c.queued ++ e.frame?.toList := by
  rw [queued, push, List.reverse_cons, List.filterMap_append]
  cases e <;> rfl

theorem queued_enqueue (c : Client) (frame : Json) :
    (c.enqueue frame).queued = c.queued ++ [frame] :=
  queued_push _ (.queued frame)

theorem moves_push {e : ClientEvent} (he : Mine c e) (hq : e.frame? = none) :
    Moves c (c.push e) where
  base := rfl
  events := ⟨[e], rfl, List.forall_mem_singleton.2 he⟩
  queue := ⟨[], nofun, by rw [queued_push, hq]; rfl, (List.append_nil _).symm⟩
  frames h := h
  room h := h

theorem moves_forget (c : Client) (id : Nat) : Moves c (c.forget id) :=
  { Moves.refl c with base := rfl }

theorem moves_setStage (hs : ∀ frame, stage.frame? = some frame → HasMethod frame) :
    Moves c (c.setStage k stage) where
  base := rfl
  events := ⟨[], rfl, nofun⟩
  queue := ⟨[], nofun, (List.append_nil _).symm, (List.append_nil _).symm⟩
  frames h := by
    intro i call hi frame hf
    rw [getElem?_setStage] at hi
    split at hi
    · obtain ⟨_, -, rfl⟩ := Option.map_eq_some_iff.1 hi
      exact hs frame hf
    · exact h i call hi frame hf
  room h := h

theorem moves_complete (c : Client) (k : Nat) (result : Except ServerError Unit) :
    Moves c (c.complete k result) := by
  have hs : Moves c (c.setStage k (.done result)) := moves_setStage nofun
  exact hs.trans (moves_push trivial rfl)

theorem length_enqueue {frame : Json} (hf : c.isFull = false) :
    (c.enqueue frame).queue.length ≤ queueLimit := by
  have hlt : c.queue.length < queueLimit := Nat.lt_of_not_le (of_decide_eq_false hf)
  rw [enqueue, push, List.length_append]
  exact hlt

theorem moves_enqueue {frame : Json} (ho : c.writerOpen = true) (hf : c.isFull = false)
    (hm : HasMethod frame) : Moves c (c.enqueue frame) where
  base := rfl
  events := ⟨[.queued frame], rfl, List.forall_mem_singleton.2 ho⟩
  queue := ⟨[frame], List.forall_mem_singleton.2 hm, queued_enqueue c frame, rfl⟩
  frames h := h
  room _ := length_enqueue hf

theorem moves_conclude (c : Client) (k : Nat) (op : Operation) (id : Nat)
    (outcome : Except RequestError Json) : Moves c (c.conclude k op id outcome) := by
  have hp : Moves c (c.push (.settled k id outcome)) := moves_push trivial rfl
  obtain hd | ⟨result, hd⟩ := conclude_cases c k op id outcome <;> rw [hd]
  · exact hp.trans (moves_setStage nofun)
  · exact hp.trans (moves_complete _ k result)

theorem Turn.moves (h : Turn c k op stage d)
    (hm : ∀ frame, stage.frame? = some frame → HasMethod frame) : Moves c d := by
  cases h with
  | stay => exact .refl c
  | unnamed | turnedAway | refuse => exact moves_complete c k _
  | number hd hf =>
    have hn : Moves c { c with nextId := (c.nextId + 1) % Nat.pow 2 64 } :=
      { Moves.refl c with base := rfl }
    refine hn.trans ((moves_push (e := .numbered k c.nextId) trivial rfl).trans ?_)
    refine moves_setStage fun frame he => ?_
    cases he
    exact hasMethod_opening hf
  | register id frame =>
    have hp : Moves c { c with pending := id :: c.pending } := { Moves.refl c with base := rfl }
    exact hp.trans ((moves_push (e := .requested k id) trivial rfl).trans (moves_setStage hm))
  | giveUp => exact moves_setStage nofun
  | proceed id frame => exact moves_setStage hm
  | ask id frame hw hf => exact (moves_enqueue hw hf (hm frame rfl)).trans (moves_setStage nofun)
  | answer id | cut id => exact moves_conclude c k op id _
  | late id => exact (moves_push (e := .expired k id) trivial rfl).trans (moves_setStage nofun)
  | abandon id e => exact (moves_forget c id).trans (moves_conclude _ k op id _)
  | prepare =>
    refine moves_setStage fun frame he => ?_
    cases he
    exact hasMethod_sequel op
  | say frame hw hf => exact (moves_enqueue hw hf (hm frame rfl)).trans (moves_complete _ k _)

theorem moves_step {a : ClientAction} (hf : c.OwnFrames) (ha : a.call? = some k) :
    Moves c (c.step a) := by
  cases hk : c.calls[k]? with
  | none =>
    rw [step_of_missing ha hk]
    exact .refl c
  | some call => exact (turn_step hk ha).moves (hf k call hk)

/-- The connection without what changes when bytes come in, the reader goes on, or one of the two
tasks is cancelled. -/
def behind (c : Client) : Client :=
  { c with
    pending := []
    answers := []
    queue := []
    unread := []
    reader := .gone
    stopped := none
    exitHandler := none
    history := [] }

theorem behind_offerReply (c : Client) (r : Json) : (c.offerReply r).behind = c.behind := by
  unfold offerReply
  split
  · rfl
  · split <;> rfl

theorem behind_dispatch (c : Client) (m : Incoming) : (c.dispatch m).behind = c.behind := by
  cases m with
  | response id body =>
    rw [dispatch]
    split <;> rfl
  | request id method params => rfl
  | notification method params =>
    rw [dispatch]
    split <;> rfl

theorem behind_read (c : Client) : c.read.behind = c.behind := by
  unfold read
  split
  · split
    · exact behind_dispatch _ _
    · rfl
    · rfl
    · rfl
  · exact behind_offerReply c _
  all_goals rfl

theorem calls_read (c : Client) : c.read.calls = c.calls :=
  (congrArg Client.calls (behind_read c) :)

theorem writerOpen_read (c : Client) : c.read.writerOpen = c.writerOpen :=
  (congrArg Client.writerOpen (behind_read c) :)

theorem ended_read (c : Client) : c.read.ended = c.ended :=
  (congrArg Client.ended (behind_read c) :)

theorem calls_step_of_none {a : ClientAction} (ha : a.call? = none) (c : Client) :
    (c.step a).calls = c.calls ∨ ∃ op, (c.step a).calls = c.calls ++ [⟨op, .begun⟩] := by
  cases a with
  | resume | expire => cases ha
  | call op => exact .inr ⟨op, rfl⟩
  | read => exact .inl (calls_read c)
  | onExit handler =>
    rw [step, onExit]
    split <;> exact .inl rfl
  | tearDown =>
    rw [step, tearDown]
    split <;> exact .inl rfl
  | cancelReader =>
    rw [step, cancelReader]
    split
    · split <;> exact .inl rfl
    · split <;> exact .inl rfl
    · exact .inl rfl
  | cancelWriter =>
    rw [step, cancelWriter]
    split <;> exact .inl rfl
  | receive | failWrite | dispose =>
    rw [step]
    split <;> exact .inl rfl
  | endStream | write | onNotification => exact .inl rfl

theorem call_of_step_of_none {a : ClientAction} {call : Call} (ha : a.call? = none)
    (hk : (c.step a).calls[k]? = some call) :
    call.stage = .begun ∨ c.calls[k]? = some call := by
  obtain hc | ⟨op, hc⟩ := calls_step_of_none ha c
  · exact .inr (hc ▸ hk)
  · rw [hc] at hk
    obtain ⟨-, rfl⟩ | hk := getElem?_concat_cases hk
    · exact .inl rfl
    · exact .inr hk

theorem ownFrames_step (h : c.OwnFrames) (a : ClientAction) : (c.step a).OwnFrames := by
  cases ha : a.call? with
  | some k => exact (moves_step h ha).frames h
  | none =>
    intro k call hk frame hf
    obtain hb | hk := call_of_step_of_none ha hk
    · cases hb ▸ hf
    · exact h k call hk frame hf

theorem ownFrames_connect (server : String) (processId : Nat) :
    (connect server processId).OwnFrames := nofun

theorem ownFrames_run (h : c.OwnFrames) (actions : List ClientAction) :
    (c.run actions).OwnFrames := by
  induction actions generalizing c with
  | nil => exact h
  | cons a actions ih => exact ih (ownFrames_step h a)

theorem call_step_or {a : ClientAction} (h : a.call? ≠ some k) (c : Client) :
    (c.step a).calls[k]? = c.calls[k]? ∨
      c.calls[k]? = none ∧ ∃ op, (c.step a).calls[k]? = some ⟨op, .begun⟩ := by
  cases ha : a.call? with
  | some j =>
    have hne : k ≠ j := fun he => h (he ▸ ha)
    cases hj : c.calls[j]? with
    | none =>
      rw [step_of_missing ha hj]
      exact .inl rfl
    | some call => exact .inl ((turn_step hj ha).others hne)
  | none =>
    obtain hc | ⟨op, hc⟩ := calls_step_of_none ha c
    · exact .inl (congrArg (·[k]?) hc)
    · by_cases hk : k = c.calls.length
      · subst hk
        refine .inr ⟨List.getElem?_eq_none (Nat.le_refl _), op, ?_⟩
        rw [hc, List.getElem?_concat_length]
      · refine .inl ?_
        rw [hc, List.getElem?_append]
        split
        · rfl
        · rename_i hlt
          rw [List.getElem?_eq_none (Nat.not_lt.1 hlt), List.getElem?_eq_none_iff]
          exact Nat.le_sub_of_add_le (by rw [List.length_singleton]; omega)

theorem call_step {call : Call} {a : ClientAction} (hk : c.calls[k]? = some call)
    (h : a.call? ≠ some k) : (c.step a).calls[k]? = some call := by
  obtain hs | ⟨hn, -⟩ := call_step_or h c
  · exact hs.trans hk
  · cases hn.symm.trans hk

theorem stage_step (hk : c.calls[k]? = some ⟨op, stage⟩) (a : ClientAction) :
    ∃ stage', (c.step a).calls[k]? = some ⟨op, stage'⟩ ∧ stage'.left ≤ stage.left := by
  by_cases ha : a.call? = some k
  · obtain ⟨stage', hd, hs | hl⟩ := (turn_step hk ha).call hk
    · exact ⟨stage, hs.symm ▸ hk, Nat.le_refl _⟩
    · exact ⟨stage', hd, Nat.le_of_lt hl⟩
  · exact ⟨stage, call_step hk ha, Nat.le_refl _⟩

theorem stage_run (hk : c.calls[k]? = some ⟨op, stage⟩) (actions : List ClientAction) :
    ∃ stage', (c.run actions).calls[k]? = some ⟨op, stage'⟩ ∧ stage'.left ≤ stage.left := by
  induction actions generalizing c stage with
  | nil => exact ⟨stage, hk, Nat.le_refl _⟩
  | cons a actions ih =>
    obtain ⟨stage', hk', hl⟩ := stage_step hk a
    obtain ⟨stage'', hd, hl'⟩ := ih hk'
    exact ⟨stage'', hd, Nat.le_trans hl' hl⟩

/-- What has ended stays so, and the connection keeps its names. -/
structure Onward (c d : Client) : Prop where
  stopped : c.stopped.isSome = true → d.stopped.isSome = true
  writer : c.writerOpen = false → d.writerOpen = false
  disposed : c.disposed = true → d.disposed = true
  server : d.server = c.server
  processId : d.processId = c.processId

theorem Onward.refl (c : Client) : Onward c c := ⟨id, id, id, rfl, rfl⟩

theorem Onward.trans (h : Onward c c') (h' : Onward c' c'') : Onward c c'' :=
  ⟨h'.stopped ∘ h.stopped, h'.writer ∘ h.writer, h'.disposed ∘ h.disposed,
    h'.server.trans h.server, h'.processId.trans h.processId⟩

theorem Moves.onward (h : Moves c d) : Onward c d where
  stopped := by rw [h.stopped]; exact id
  writer := by rw [h.writerOpen]; exact id
  disposed := by rw [disposed, disposed, h.disposal]; exact id
  server := h.server
  processId := h.processId

theorem stopped_dispatch (c : Client) (m : Incoming) : (c.dispatch m).stopped = c.stopped := by
  cases m with
  | request id method params => rfl
  | response | notification =>
    rw [dispatch]
    split <;> rfl

theorem stopped_read (h : c.stopped.isSome = true) : c.read.stopped.isSome = true := by
  unfold read
  split
  · split
    · rwa [stopped_dispatch]
    · rfl
    · rfl
    · exact h
  · rw [offerReply]
    split
    · exact h
    · split <;> exact h
  all_goals exact h

theorem disposal_read (c : Client) : c.read.disposal = c.disposal :=
  (congrArg Client.disposal (behind_read c) :)

theorem onward_read (c : Client) : Onward c c.read where
  stopped := stopped_read
  writer := by rw [writerOpen_read]; exact id
  disposed := by rw [disposed, disposed, disposal_read]; exact id
  server := (congrArg Client.server (behind_read c) :)
  processId := (congrArg Client.processId (behind_read c) :)

theorem onward_step (hf : c.OwnFrames) (a : ClientAction) : Onward c (c.step a) := by
  cases ha : a.call? with
  | some k => exact (moves_step hf ha).onward
  | none =>
    cases a with
    | resume | expire => cases ha
    | read => exact onward_read c
    | onExit handler =>
      rw [step, onExit]
      split <;> exact ⟨id, id, id, rfl, rfl⟩
    | receive | failWrite =>
      rw [step]
      split <;> exact ⟨id, by simp, id, rfl, rfl⟩
    | dispose =>
      rw [step]
      split
      · exact .refl c
      · exact ⟨id, id, fun _ => rfl, rfl, rfl⟩
    | tearDown =>
      rw [step, tearDown]
      split
      · exact ⟨id, id, fun _ => rfl, rfl, rfl⟩
      · exact ⟨id, id, fun _ => rfl, rfl, rfl⟩
      · exact .refl c
      · exact .refl c
    | cancelReader =>
      rw [step, cancelReader]
      split
      · split <;> exact ⟨id, id, id, rfl, rfl⟩
      · split <;> exact ⟨id, id, id, rfl, rfl⟩
      · exact .refl c
    | cancelWriter =>
      rw [step, cancelWriter]
      split <;> exact ⟨id, by simp, id, rfl, rfl⟩
    | call | endStream | write | onNotification => exact ⟨id, id, id, rfl, rfl⟩

theorem onward_run (hf : c.OwnFrames) (actions : List ClientAction) : Onward c (c.run actions) := by
  induction actions generalizing c with
  | nil => exact .refl c
  | cons a actions ih => exact (onward_step hf a).trans (ih (ownFrames_step hf a))

end Client
end Switchyard.Rpc
