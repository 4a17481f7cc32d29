import Switchyard.Proofs.Rpc.Courses
import Switchyard.Proofs.Uri.Canonical

namespace Switchyard.Rpc

namespace Client

variable {c d : Client} {k id : Nat} {op : Operation} {sent : List Json} {stage stage' : CallStage}
  {a : ClientAction} {result : Except ServerError Unit}

/-- Nothing can be queued any more for a call that has come to the stage and queued nothing. -/
def Shut (c : Client) : CallStage → Prop
  | .begun => c.disposed = true ∨ c.Ceased
  | .numbered _ _ | .registered _ _ => c.Ceased
  | .requesting _ _ => c.writerOpen = false
  | .abandoning _ e => e = .closed
  | _ => False

/-- The notification that follows the request of a call cannot be queued. -/
def Refuses (c : Client) : CallStage → Prop
  | .abandoning _ _ => c.Ceased
  | .answered => c.disposed = true
  | .notifying _ => c.writerOpen = false
  | _ => False

/-- The first that came to the request of a call is a response without an error, and the client can
still queue frames when the call ends. -/
def Served (c d : Client) (k : Nat) (stage : CallStage) : Prop :=
  d.Accepted k ∧ ¬ c.Refuses stage

instance : Decidable (c.Accepted k) :=
  decidable_of_iff (((verdict? k c.log).bind Verdict.body?).any fun body =>
    (body.get? "error").isNone) <| by
    unfold Accepted
    rcases verdict? k c.log with - | ⟨body | - | -⟩ <;> simp [Verdict.body?]

instance : Decidable c.Ceased := inferInstanceAs (Decidable (_ ∨ _))

/-- A call on its way. It comes to its end, it queues nothing if it is too late for that, and its
time counts if it is over before anything else has come to its request. -/
structure Pursues (c : Client) (k : Nat) (op : Operation) (stage : CallStage)
    (sent : List ClientAction → List Json) : Prop where
  ends : c.EndsWithin k op 7
  shut : c.Shut stage → ∀ later, sent later = []
  timely : ∀ id, stage = .waiting id → verdict? k c.log = none →
    verdict? k (c.step (.expire k)).log = some .late

/-- How a call at a stage comes to its end in a step: what it has sent by then, and what is left of
its request. -/
structure Ends (c d : Client) (k : Nat) (stage : CallStage) (opening : Nat → Json) (sequel : Json)
    (sent : List Json) : Prop where
  served : c.Served d k stage → ∃ id, idOf? k d.log = some id ∧ sent = [opening id, sequel]
  unserved : ¬ c.Served d k stage → ¬ c.Shut stage →
    ∃ id, idOf? k d.log = some id ∧ sent = [opening id]
  shut : c.Shut stage → sent = []
  silent : ∀ later, sentBy k d later = []
  forgotten : ∀ id, .requested k id ∈ d.log → id ∉ d.pending
  alone : d.calls.length = 1 → d.pending = []

theorem call?_of_done (hk : c.calls[k]? = some ⟨op, stage⟩) (hs : stage.isDone = false)
    (hd : (c.step a).calls[k]? = some ⟨op, .done result⟩) : a.call? = some k := by
  by_contra h
  cases (call_step hk h).symm.trans hd
  cases hs

theorem call_run {call : Call} {actions later : List ClientAction}
    (hk : (c.run actions).calls[k]? = some call) (h : ∀ a ∈ later, a.call? ≠ some k) :
    (c.run (actions ++ later)).calls[k]? = some call := by
  induction later generalizing actions with
  | nil => rwa [List.append_nil]
  | cons a later ih =>
    obtain ⟨ha, hlater⟩ := List.forall_mem_cons.1 h
    have hstep : (c.run (actions ++ [a])).calls[k]? = some call := by
      rw [run_concat]
      exact call_step hk ha
    rw [List.append_cons]
    exact ih hstep hlater

theorem exists_done (hk : c.calls[k]? = some ⟨op, stage⟩)
    (h : (c.step a).calls[k]?.map (·.stage.isDone) = some true) :
    ∃ result, (c.step a).calls[k]? = some ⟨op, .done result⟩ := by
  obtain ⟨stage', hd, -⟩ := stage_step hk a
  rw [hd] at h
  cases stage' with
  | done result => exact ⟨result, hd⟩
  | _ => cases h

theorem exists_stage (hk : c.calls[k]? = some ⟨op, stage⟩) {actions : List ClientAction}
    (h : (c.run actions).calls[k]?.map (·.stage.isDone) = some false) :
    ∃ stage', (c.run actions).calls[k]? = some ⟨op, stage'⟩ ∧ stage'.isDone = false := by
  obtain ⟨stage', hd, -⟩ := stage_run hk actions
  rw [hd] at h
  exact ⟨stage', hd, Option.some.inj h⟩

theorem not_refuses (hd : c.disposed = false) (hc : ¬ c.Ceased) : ¬ c.Refuses stage := by
  cases stage with
  | abandoning => exact hc
  | answered => exact Bool.eq_false_iff.1 hd
  | notifying => exact fun hw => hc (.inr hw)
  | _ => exact not_false

theorem sentBy_of_done (hk : c.calls[k]? = some ⟨op, .done result⟩) (later : List ClientAction) :
    sentBy k c later = [] := by
  induction later generalizing c with
  | nil => rfl
  | cons a later ih =>
    rw [sentBy]
    by_cases ha : a.call? = some k
    · have hs : c.step a = c := step_of_done ha fun op' stage' h => by
        cases hk.symm.trans h
        rfl
      rw [said_of_same hs, hs]
      exact ih hk
    · rw [said_of_ne ha]
      exact ih (call_step hk ha)

theorem Shut.onward (h : c.Shut stage) (ho : Onward c d) : d.Shut stage := by
  cases stage with
  | begun => exact Or.imp ho.disposed (Ceased.onward · ho) h
  | numbered id frame | registered id frame => exact Ceased.onward h ho
  | requesting id frame => exact ho.writer h
  | abandoning id e => exact h
  | waiting | answered | notifying | done => exact h

/-- A call that is too late to queue anything goes on to its end without a frame. -/
theorem Turn.shut (h : Turn c k op stage d) (hk : c.calls[k]? = some ⟨op, stage⟩)
    (ho : op.Requests) (hshut : c.Shut stage) :
    d.queued = c.queued ∧ ∃ stage', d.calls[k]? = some ⟨op, stage'⟩ ∧
      (d.Shut stage' ∨ stage'.isDone = true) := by
  have quiet {d : Client} {e : ClientEvent} (he : e.frame? = none) :
      (d.push e).queued = d.queued := by
    rw [queued_push, he]
    exact List.append_nil _
  cases h with
  | stay => exact ⟨rfl, stage, hk, .inl hshut⟩
  | unnamed he hu =>
    rw [he, Operation.Requests, hu] at ho
    cases ho
  | turnedAway => exact ⟨quiet rfl, _, call_setStage hk _, .inr rfl⟩
  | number hd =>
    have hceased : c.Ceased := hshut.resolve_left (by simp [hd])
    exact ⟨quiet rfl, _, call_setStage (c := _) hk _, .inl hceased⟩
  | register id frame => exact ⟨quiet rfl, _, call_setStage (c := _) hk _, .inl hshut⟩
  | giveUp => exact ⟨rfl, _, call_setStage hk _, .inl rfl⟩
  | proceed id frame hs =>
    have hw : c.writerOpen = false := hshut.resolve_left (by simp [hs])
    exact ⟨rfl, _, call_setStage hk _, .inl hw⟩
  | ask id frame hw => cases hw.symm.trans hshut
  | answer | cut | late => exact hshut.elim
  | abandon id e =>
    exact ⟨(quiet rfl).trans (quiet rfl), _, call_setStage (c := _) hk _, .inr rfl⟩
  | prepare hs =>
    obtain rfl | ⟨-, hno⟩ := hs
    · exact hshut.elim
    · exact absurd ho hno
  | refuse | say => exact hshut.elim

theorem sentBy_of_shut (hf : c.OwnFrames) (hk : c.calls[k]? = some ⟨op, stage⟩)
    (ho : op.Requests) (hshut : c.Shut stage) (later : List ClientAction) :
    sentBy k c later = [] := by
  induction later generalizing c stage with
  | nil => rfl
  | cons a later ih =>
    have hf' := ownFrames_step hf a
    rw [sentBy]
    by_cases ha : a.call? = some k
    · obtain ⟨hq, stage', hd, hshut' | hs⟩ := (turn_step hk ha).shut hk ho hshut
      · rw [said_of_queued ha (hq.trans (List.append_nil _).symm)]
        exact ih hf' hd hshut'
      · rw [said_of_queued ha (hq.trans (List.append_nil _).symm)]
        cases stage' with
        | done result => exact sentBy_of_done hd later
        | _ => cases hs
    · rw [said_of_ne ha]
      exact ih hf' (call_step hk ha) (hshut.onward (onward_step hf a))

theorem Course.sent_of_shut (h : c.Course k op sent stage) (hshut : c.Shut stage) :
    sent = [] := by
  cases stage with
  | begun | numbered | registered | requesting => exact h.1
  | abandoning id e =>
    cases hshut
    exact h.1
  | waiting | answered | notifying | done => exact hshut.elim

theorem Course.verdict_expire (h : c.Course k op sent (.waiting id))
    (hk : c.calls[k]? = some ⟨op, .waiting id⟩) (hv : verdict? k c.log = none) :
    verdict? k (c.step (.expire k)).log = some .late := by
  obtain ⟨-, hst⟩ := h
  have hp : c.pending.contains id = true := List.contains_iff_mem.2 (hst.waits.2 hv)
  have hl : (c.step (.expire k)).log = c.log ++ [.expired k id] := by
    rw [step, expire, hk]
    dsimp only
    rw [if_pos hp]
    exact log_push c _
  have hlog : c.requests.log = c.log := rfl
  rw [hl, ← hlog, (hst.log_append _).2, hlog, hv, Option.none_or, ClientEvent.verdict?, if_pos rfl]

theorem opened_of_isSome {opening : Nat → Json}
    (hopening : ∀ id, op.opening? c.processId id = some (opening id))
    (h : (idOf? k c.log).isSome = true) :
    ∃ id, idOf? k c.log = some id ∧ c.opened k op = [opening id] := by
  obtain ⟨id, hid⟩ := Option.isSome_iff_exists.1 h
  refine ⟨id, hid, ?_⟩
  rw [opened, hid, Option.bind_some, hopening]
  rfl

theorem not_accepted_of_none (h : idOf? k c.log = none) : ¬ c.Accepted k := by
  rintro ⟨body, hv, -⟩
  cases (verdict?_eq_none h).symm.trans hv

theorem not_accepted_of_ne {v : Verdict} (h : verdict? k c.log = some v)
    (hv : ∀ body, v ≠ .answered body) : ¬ c.Accepted k := by
  rintro ⟨body, hv', -⟩
  cases h.symm.trans hv'
  exact hv body rfl

theorem not_accepted_of_error {body error : Json} (ha : verdict? k c.log = some (.answered body))
    (he : body.get? "error" = some error) : ¬ c.Accepted k := by
  rintro ⟨body', ha', hn⟩
  cases ha.symm.trans ha'
  cases he.symm.trans hn

theorem Accepted.isSome (h : c.Accepted k) : (idOf? k c.log).isSome = true := by
  obtain ⟨body, hv, -⟩ := h
  exact isSome_of_verdict hv

theorem Returned.frames {opening : Nat → Json} (h : c.Returned d k op stage sent result)
    (hopening : ∀ id, op.opening? d.processId id = some (opening id)) :
    (c.Served d k stage → ∃ id, idOf? k d.log = some id ∧ sent = [opening id, op.sequel]) ∧
      (¬ c.Served d k stage → ¬ c.Shut stage →
        ∃ id, idOf? k d.log = some id ∧ sent = [opening id]) := by
  cases h with
  | turnedAway hd hi =>
    exact ⟨fun hs => absurd hs.1 (not_accepted_of_none hi), fun _ hshut => absurd (.inl hd) hshut⟩
  | refused id hc hv => exact ⟨fun hs => absurd hc hs.2, fun _ hshut => absurd rfl hshut⟩
  | late id hv =>
    exact ⟨fun hs => absurd hs.1 (not_accepted_of_ne hv nofun), fun _ _ =>
      opened_of_isSome hopening (isSome_of_verdict hv)⟩
  | cutOff id hv =>
    exact ⟨fun hs => absurd hs.1 (not_accepted_of_ne hv nofun), fun _ _ =>
      opened_of_isSome hopening (isSome_of_verdict hv)⟩
  | rejected id hv he =>
    exact ⟨fun hs => absurd hs.1 (not_accepted_of_error hv he), fun _ _ =>
      opened_of_isSome hopening (isSome_of_verdict hv)⟩
  | unwanted ha hd =>
    exact ⟨fun hs => absurd hd hs.2, fun _ _ => opened_of_isSome hopening ha.isSome⟩
  | unsaid frame ha hw =>
    exact ⟨fun hs => absurd hw hs.2, fun _ _ => opened_of_isSome hopening ha.isSome⟩
  | said frame ha hw =>
    obtain ⟨id, hid, he⟩ := opened_of_isSome hopening ha.isSome
    have hopen : ¬ c.Refuses (.notifying frame) := fun hw' => absurd (hw.symm.trans hw') nofun
    exact ⟨fun _ => ⟨id, hid, by rw [he]; rfl⟩, fun hn => absurd ⟨ha, hopen⟩ hn⟩

/-- The result of a handshake: it is the time if nothing else came before it. -/
theorem Returned.handshake {root : Path} {ms : Nat}
    (h : c.Returned d k (.handshake root ms) stage sent result) :
    (result = .ok () ↔ c.Served d k stage) ∧
      (result = .error (.handshakeTimeout c.server ms) ↔ verdict? k d.log = some .late) ∧
      ∀ e, result = .error e →
        e = .handshakeTimeout c.server ms ∨ ∃ reason, e = .handshake c.server reason := by
  have failed (e : ServerError) : Except.error e ≠ (.ok () : Except ServerError Unit) := nofun
  have untimely (reason : String) :
      (.error (.handshake c.server reason) : Except ServerError Unit) ≠
      .error (.handshakeTimeout c.server ms) := nofun
  have other (reason : String) (e : ServerError)
      (he : (.error (.handshake c.server reason) : Except ServerError Unit) = .error e) :
      e = .handshakeTimeout c.server ms ∨ ∃ reason, e = .handshake c.server reason :=
    .inr ⟨reason, (Except.error.inj he).symm⟩
  have inTime {v : Verdict} (hv : verdict? k d.log = some v) (hne : v ≠ .late) :
      verdict? k d.log ≠ some .late := fun h => hne (Option.some.inj (hv.symm.trans h))
  cases h with
  | turnedAway hd hi =>
    refine ⟨iff_of_false (failed _) fun hs => not_accepted_of_none hi hs.1,
      iff_of_false (untimely _) ?_, other _⟩
    rw [verdict?_eq_none hi]
    nofun
  | refused id hc hv =>
    exact ⟨iff_of_false (failed _) fun hs => hs.2 hc,
      iff_of_false (untimely _) fun h => hv _ h rfl, other _⟩
  | late id hv =>
    exact ⟨iff_of_false (failed _) fun hs => not_accepted_of_ne hv nofun hs.1,
      iff_of_true rfl hv, fun e he => .inl (Except.error.inj he).symm⟩
  | cutOff id hv =>
    exact ⟨iff_of_false (failed _) fun hs => not_accepted_of_ne hv nofun hs.1,
      iff_of_false (untimely _) (inTime hv nofun), other _⟩
  | rejected id hv he =>
    exact ⟨iff_of_false (failed _) fun hs => not_accepted_of_error hv he hs.1,
      iff_of_false (untimely _) (inTime hv nofun), other _⟩
  | unwanted ha hd =>
    obtain ⟨body, hv, -⟩ := ha
    exact ⟨iff_of_false (failed _) fun hs => hs.2 hd,
      iff_of_false (untimely _) (inTime hv nofun), other _⟩
  | unsaid frame ha hw =>
    obtain ⟨body, hv, -⟩ := ha
    exact ⟨iff_of_false (failed _) fun hs => hs.2 hw,
      iff_of_false (untimely _) (inTime hv nofun), other _⟩
  | said frame ha hw =>
    have hopen : ¬ c.Refuses (.notifying frame) := fun hw' => absurd (hw.symm.trans hw') nofun
    obtain ⟨body, hv, hb⟩ := ha
    exact ⟨iff_of_true rfl ⟨⟨body, hv, hb⟩, hopen⟩, iff_of_false nofun (inTime hv nofun), nofun⟩

theorem Returned.shutdown (h : c.Returned d k .shutdown stage sent result) : result = .ok () := by
  cases h <;> rfl

theorem pending_of_done (h : Correlated c.requests)
    (hk : c.calls[k]? = some ⟨op, .done result⟩) :
    (∀ id, .requested k id ∈ c.log → id ∉ c.pending) ∧
      (c.calls.length = 1 → c.pending = []) := by
  obtain ⟨hnum, -, hway⟩ := h
  have hidle : c.requests.active[k]? = some .nothing := active_of_call hk
  constructor
  · intro id hid hp
    obtain ⟨j, hj⟩ := hway.waiting id hp
    obtain ⟨i, hi⟩ := hway.requested j id hj
    obtain ⟨i', hi'⟩ := List.mem_iff_getElem?.1 hid
    cases hnum.distinct id i i' _ _ hi hi' ⟨j, rfl⟩ ⟨k, rfl⟩
    cases hi.symm.trans hi'
    cases hidle.symm.trans hj
  · intro hone
    rw [List.eq_nil_iff_forall_not_mem]
    intro id hp
    obtain ⟨j, hj⟩ := hway.waiting id hp
    have hlt : j < c.calls.length := by
      have hlt := (List.getElem?_eq_some_iff.1 hj).1
      rwa [requests, List.length_map] at hlt
    have hlt' : k < c.calls.length := (List.getElem?_eq_some_iff.1 hk).1
    have he : j = k := by omega
    cases hidle.symm.trans (he ▸ hj)

section Run

variable {actions : List ClientAction}

theorem onward_connect (server : String) (processId : Nat) (actions : List ClientAction) :
    Onward (connect server processId) ((connect server processId).run actions) :=
  onward_run (ownFrames_connect server processId) actions

theorem pursues_run (server : String) (processId : Nat)
    (hn : ((connect server processId).run actions).calls.length < Nat.pow 2 64)
    (hk : ((connect server processId).run actions).calls[k]? = some ⟨op, stage⟩)
    (ho : op.Requests) (hs : stage.isDone = false) :
    ((connect server processId).run actions).Pursues k op stage fun later =>
      sentBy k (connect server processId) (actions ++ later) := by
  have hcourse := (courses_run server processId hn).course k op stage hk ho hs
  have hf := ownFrames_run (ownFrames_connect server processId) actions
  refine ⟨endsWithin_of_left hk stage.left_le, fun hshut later => ?_, ?_⟩
  · rw [sentBy_append, hcourse.sent_of_shut hshut, List.nil_append]
    exact sentBy_of_shut hf hk ho hshut later
  · rintro id rfl hv
    exact hcourse.verdict_expire hk hv

theorem returned_run (server : String) (processId : Nat)
    (hn : ((connect server processId).run actions).calls.length < Nat.pow 2 64)
    (hk : ((connect server processId).run actions).calls[k]? = some ⟨op, stage⟩)
    (ho : op.Requests) (hs : stage.isDone = false)
    (hd : (((connect server processId).run actions).step a).calls[k]? = some ⟨op, .done result⟩) :
    ((connect server processId).run actions).Returned
      (((connect server processId).run actions).step a) k op stage
      (sentBy k (connect server processId) (actions ++ [a])) result := by
  have ha := call?_of_done hk hs hd
  have hr := correlated_run server processId hn
  have hcourse := (courses_run server processId hn).course k op stage hk ho hs
  obtain ⟨_, frames, hd', hq, -, hret⟩ := hcourse.advances hr hk ho hs (turn_step hk ha)
  cases hd'.symm.trans hd
  rw [sentBy_concat, said_of_queued ha hq]
  exact hret result rfl

theorem ends_run (server : String) (processId : Nat) {opening : Nat → Json}
    (hn : ((connect server processId).run actions).calls.length < Nat.pow 2 64)
    (hk : ((connect server processId).run actions).calls[k]? = some ⟨op, stage⟩)
    (ho : op.Requests) (hs : stage.isDone = false)
    (hd : (((connect server processId).run actions).step a).calls[k]? = some ⟨op, .done result⟩)
    (hopening : ∀ id, op.opening? processId id = some (opening id)) :
    ((connect server processId).run actions).Ends
      (((connect server processId).run actions).step a) k stage opening op.sequel
      (sentBy k (connect server processId) (actions ++ [a])) := by
  have hrun := run_concat (connect server processId) actions a
  have hp := (onward_connect server processId (actions ++ [a])).processId
  have hlen := (turn_step hk (call?_of_done hk hs hd)).length_calls
  have hr : Correlated (((connect server processId).run actions).step a).requests := by
    rw [← hrun]
    exact correlated_run server processId (by rwa [hrun, hlen])
  obtain ⟨hserved, hunserved⟩ := (returned_run server processId hn hk ho hs hd).frames fun id => by
    rw [← hrun, hp]
    exact hopening id
  obtain ⟨hforgotten, halone⟩ := pending_of_done hr hd
  exact ⟨hserved, hunserved, fun hshut => (pursues_run server processId hn hk ho hs).shut hshut [a],
    sentBy_of_done hd, hforgotten, halone⟩

end Run

end Client

open Client

/-- Handshakes and shutdowns, whatever else happens on the connection: they end, and when they do,
they have queued their request, unless it was too late for that, and the notification that follows
just if the first that came to the request is a response without an error and frames can still be
queued. A handshake succeeds in that case only, and runs out of time only if that came first; a
shutdown never fails. -/
theorem handshake_and_shutdown (server : String) (processId : Nat) (actions : List ClientAction)
    (k : Nat) (hn : ((connect server processId).run actions).calls.length < Nat.pow 2 64) :
    let c := (connect server processId).run actions
    let sent (later : List ClientAction) := sentBy k (connect server processId) (actions ++ later)
    (∀ root ms stage, root.isAbsolute = true →
      c.calls[k]? = some ⟨.handshake root ms, stage⟩ → stage.isDone = false →
      c.Pursues k (.handshake root ms) stage sent ∧
      ∃ uri, Uri.ofPath? root = some uri ∧
        ∀ a result, (c.step a).calls[k]? = some ⟨.handshake root ms, .done result⟩ →
          let d := c.step a
          c.Ends d k stage
            (fun id => request id "initialize"
              (some (initializeParams (.nat processId) uri (workspaceName root))))
            (notification "initialized" (some (.obj []))) (sent [a]) ∧
          (result = .ok () ↔ c.Served d k stage) ∧
          (result = .error (.handshakeTimeout server ms) ↔ verdict? k d.log = some .late) ∧
          ∀ e, result = .error e →
            e = .handshakeTimeout server ms ∨ ∃ reason, e = .handshake server reason) ∧
    ∀ stage, c.calls[k]? = some ⟨.shutdown, stage⟩ → stage.isDone = false →
      c.Pursues k .shutdown stage sent ∧
      (∀ a result, (c.step a).calls[k]? = some ⟨.shutdown, .done result⟩ →
        c.Ends (c.step a) k stage (fun id => request id "shutdown" none)
          (notification "exit" none) (sent [a]) ∧
        result = .ok ()) ∧
      (c.disposed = true → stage = .begun → c.step (.resume k) = c.complete k (.ok ())) := by
  intro c sent
  have hserver : c.server = server := (onward_connect server processId actions).server
  refine ⟨fun root ms stage hroot hk hs => ?_, fun stage hk hs => ?_⟩
  · obtain ⟨uri, huri⟩ := Uri.ofPath?_isSome hroot
    have ho : (Operation.handshake root ms).Requests := Option.isSome_iff_exists.2 ⟨uri, huri⟩
    refine ⟨pursues_run server processId hn hk ho hs, uri, huri, fun a result hd => ?_⟩
    refine ⟨ends_run server processId hn hk ho hs hd fun id => ?_, ?_⟩
    · rw [Operation.opening?, huri]
      rfl
    · have hresult := (returned_run server processId hn hk ho hs hd).handshake
      rwa [show ((connect server processId).run actions).server = server from hserver] at hresult
  · refine ⟨pursues_run server processId hn hk trivial hs, fun a result hd => ?_, ?_⟩
    · exact ⟨ends_run server processId hn hk trivial hs hd fun _ => rfl,
        (returned_run server processId hn hk trivial hs hd).shutdown⟩
    · rintro hdisposed rfl
      rw [step, resume_eq hk]
      exact if_pos hdisposed

def asked (op : Operation) : List ClientAction :=
  [.call op, .resume 0, .resume 0, .resume 0, .resume 0]

theorem asked_handshake :
    ((connect "server" 7).run (asked (.handshake (.ofString "/") 1000))).calls[0]? =
      some ⟨.handshake (.ofString "/") 1000, .waiting 1⟩ := by
  rfl

/-- Such a call whose request is answered without an error; it has its notification ready. -/
def answered (op : Operation) : List ClientAction :=
  asked op ++ [.receive (write (emptyResponse 1)), .read, .resume 0, .resume 0]

theorem answered_end :
    let c := (connect "server" 7).run (answered (.handshake (.ofString "/") 1000))
    let d := (connect "server" 7).run (answered .shutdown)
    (c.calls.length < Nat.pow 2 64 ∧ ∃ uri id, Uri.ofPath? (.ofString "/") = some uri ∧
      (c.step (.resume 0)).calls[0]? = some ⟨.handshake (.ofString "/") 1000, .done (.ok ())⟩ ∧
      sentBy 0 (connect "server" 7) (answered (.handshake (.ofString "/") 1000) ++ [.resume 0]) =
        [request id "initialize"
          (some (initializeParams (.nat 7) uri (workspaceName (.ofString "/")))),
          notification "initialized" (some (.obj []))] ∧
      (c.step (.resume 0)).pending = []) ∧
    d.calls.length < Nat.pow 2 64 ∧ ∃ id,
      (d.step (.resume 0)).calls[0]? = some ⟨.shutdown, .done (.ok ())⟩ ∧
      sentBy 0 (connect "server" 7) (answered .shutdown ++ [.resume 0]) =
        [request id "shutdown" none, notification "exit" none] := by
  intro c d
  have hroot : Path.isAbsolute (.ofString "/") = true := by decide +kernel
  obtain ⟨hn, hs, hend, hdisposed, hceased, haccepted, hone⟩ : c.calls.length < Nat.pow 2 64 ∧
      c.calls[0]?.map (·.stage.isDone) = some false ∧
      (c.step (.resume 0)).calls[0]?.map (·.stage.isDone) = some true ∧ c.disposed = false ∧
      ¬ c.Ceased ∧ (c.step (.resume 0)).Accepted 0 ∧ (c.step (.resume 0)).calls.length = 1 := by
    decide +kernel
  obtain ⟨hn', hs', hend', hdisposed', hceased', haccepted'⟩ : d.calls.length < Nat.pow 2 64 ∧
      d.calls[0]?.map (·.stage.isDone) = some false ∧
      (d.step (.resume 0)).calls[0]?.map (·.stage.isDone) = some true ∧ d.disposed = false ∧
      ¬ d.Ceased ∧ (d.step (.resume 0)).Accepted 0 := by
    decide +kernel
  obtain ⟨stage, hk, hs⟩ := exists_stage (c := (connect "server" 7).run [.call _]) rfl hs
  obtain ⟨stage', hk', hs'⟩ := exists_stage (c := (connect "server" 7).run [.call _]) rfl hs'
  obtain ⟨result, hd⟩ := exists_done hk hend
  obtain ⟨result', hd'⟩ := exists_done hk' hend'
  obtain ⟨-, uri, huri, hends⟩ := (handshake_and_shutdown "server" 7 _ 0 hn).1 _ _ _ hroot hk hs
  obtain ⟨hframes, hok, -⟩ := hends (.resume 0) result hd
  have hserved : c.Served (c.step (.resume 0)) 0 stage := ⟨haccepted, not_refuses hdisposed hceased⟩
  obtain rfl := hok.2 hserved
  obtain ⟨id, -, hsent⟩ := hframes.served hserved
  obtain ⟨-, hends', -⟩ := (handshake_and_shutdown "server" 7 _ 0 hn').2 _ hk' hs'
  obtain ⟨hframes', rfl⟩ := hends' (.resume 0) result' hd'
  obtain ⟨id', -, hsent'⟩ := hframes'.served ⟨haccepted', not_refuses hdisposed' hceased'⟩
  exact ⟨⟨hn, uri, id, huri, hd, hsent, hframes.alone hone⟩, hn', id', hd', hsent'⟩

def refusal (id : Nat) : Json := reply (.nat id) "textDocument/hover" none

/-- A handshake that is refused first and accepted right after; its call has not gone on since. -/
def refusedFirst : List ClientAction :=
  asked (.handshake (.ofString "/") 1000) ++
    [.receive (write (refusal 1) ++ write (emptyResponse 1)), .read, .read]

/-- Of two responses the second one does not count: although a response without an error has come in
while time was left and the connection there, the handshake fails. -/
theorem refusedFirst_fails :
    let c := (connect "server" 7).run refusedFirst
    (idOf? 0 c.log = some 1 ∧
      ∃ body, .dispatched (.response 1 body) ∈ c.log ∧ body.get? "error" = none) ∧
    (∀ a ∈ refusedFirst, a ≠ .expire 0) ∧ c.disposed = false ∧ c.stopped = none ∧
    c.writerOpen = true ∧ c.isFull = false ∧
    ∃ reason, (c.step (.resume 0)).calls[0]? =
      some ⟨.handshake (.ofString "/") 1000, .done (.error (.handshake "server" reason))⟩ := by
  intro c
  have hroot : (Uri.ofPath? (.ofString "/")).isSome = true := by decide +kernel
  have hk : c.calls[0]? = some ⟨.handshake (.ofString "/") 1000, .waiting 1⟩ :=
    call_run asked_handshake (by decide)
  obtain ⟨hn, hid, hany, hdisposed, hstopped, hopen, hroom, hend, hunserved, hbodied⟩ :
      c.calls.length < Nat.pow 2 64 ∧ idOf? 0 c.log = some 1 ∧
      c.log.any (fun e => ((e.verdict? 1).bind Verdict.body?).any fun body =>
        (body.get? "error").isNone) = true ∧
      c.disposed = false ∧ c.stopped.isNone = true ∧ c.writerOpen = true ∧ c.isFull = false ∧
      (c.step (.resume 0)).calls[0]?.map (·.stage.isDone) = some true ∧
      ¬ (c.step (.resume 0)).Accepted 0 ∧
      ((verdict? 0 (c.step (.resume 0)).log).bind Verdict.body?).isSome = true := by
    decide +kernel
  have hbody : ∃ body, .dispatched (.response 1 body) ∈ c.log ∧ body.get? "error" = none := by
    obtain ⟨e, he, hbody⟩ := List.any_eq_true.1 hany
    obtain ⟨body, hb, hnone⟩ := (Option.any_eq_true _ _).1 hbody
    obtain ⟨v, hv, hb⟩ := Option.bind_eq_some_iff.1 hb
    exact ⟨body, ClientEvent.eq_of_verdict hv hb ▸ he, Option.isNone_iff_eq_none.1 hnone⟩
  refine ⟨⟨hid, hbody⟩, by simp [refusedFirst, asked], hdisposed,
    Option.isNone_iff_eq_none.1 hstopped, hopen, hroom, ?_⟩
  obtain ⟨result, hd⟩ := exists_done hk hend
  obtain ⟨hok, htimeout, herror⟩ := (returned_run "server" 7 hn hk hroot rfl hd).handshake
  have hserver : c.server = "server" := (onward_connect "server" 7 refusedFirst).server
  cases result with
  | ok => exact absurd (hok.1 rfl).1 hunserved
  | error e =>
    obtain rfl | ⟨reason, rfl⟩ := herror e rfl
    · rw [htimeout.1 rfl] at hbodied
      cases hbodied
    · exact ⟨reason, hserver ▸ hd⟩

end Switchyard.Rpc
