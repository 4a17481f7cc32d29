import Mathlib.Data.List.Induction
import Switchyard.Proofs.Rpc.Rounds
import Switchyard.Proofs.Rpc.Verdicts

namespace Switchyard.Rpc

namespace Client

variable {c d d' : Client} {j k id : Nat} {op : Operation} {sent sent' frames : List Json}
  {stage stage' : CallStage} {body : Json} {result : Except ServerError Unit} {a : ClientAction}

/-- The first that came to the request of a call is a response without an error. -/
def Accepted (c : Client) (k : Nat) : Prop :=
  ∃ body, verdict? k c.log = some (.answered body) ∧ body.get? "error" = none

def Ceased (c : Client) : Prop := c.stopped.isSome = true ∨ c.writerOpen = false

def opened (c : Client) (k : Nat) (op : Operation) : List Json :=
  ((idOf? k c.log).bind fun id => op.opening? c.processId id).toList

/-- What a call has queued at a stage, and what is known of its request. -/
def Course (c : Client) (k : Nat) (op : Operation) (sent : List Json) : CallStage → Prop
  | .begun => sent = [] ∧ idOf? k c.log = none
  | .numbered id frame =>
    sent = [] ∧ op.opening? c.processId id = some frame ∧ idOf? k c.log = none
  | .registered id frame | .requesting id frame =>
    sent = [] ∧ op.opening? c.processId id = some frame ∧ c.requests.Standing k id
  | .waiting id => sent = c.opened k op ∧ c.requests.Standing k id
  | .abandoning id .closed => sent = [] ∧ c.Ceased ∧ c.requests.Standing k id
  | .abandoning _ .timeout => sent = c.opened k op ∧ verdict? k c.log = some .late
  | .answered => sent = c.opened k op ∧ c.Accepted k
  | .notifying frame => frame = op.sequel ∧ sent = c.opened k op ∧ c.Accepted k
  | .done _ => True

/-- How a call can come from a stage to its end, and what it has queued by then. -/
inductive Returned (c d : Client) (k : Nat) (op : Operation) :
    CallStage → List Json → Except ServerError Unit → Prop
  | turnedAway (hd : c.disposed = true) (hi : idOf? k d.log = none) :
    Returned c d k op .begun [] (op.failure c.server .closed)
  | refused (id : Nat) (hc : c.Ceased) (hv : ∀ v, verdict? k d.log = some v → v ≠ .late) :
    Returned c d k op (.abandoning id .closed) [] (op.failure c.server .closed)
  | late (id : Nat) (hv : verdict? k d.log = some .late) :
    Returned c d k op (.abandoning id .timeout) (d.opened k op) (op.failure c.server .timeout)
  | cutOff (id : Nat) (hv : verdict? k d.log = some .cutOff) :
    Returned c d k op (.waiting id) (d.opened k op) (op.failure c.server .closed)
  | rejected (id : Nat) {body error : Json} (hv : verdict? k d.log = some (.answered body))
    (he : body.get? "error" = some error) :
    Returned c d k op (.waiting id) (d.opened k op) (op.rejection c.server error)
  | unwanted (ha : d.Accepted k) (hd : c.disposed = true) :
    Returned c d k op .answered (d.opened k op) (op.failure c.server .closed)
  | unsaid (frame : Json) (ha : d.Accepted k) (hw : c.writerOpen = false) :
    Returned c d k op (.notifying frame) (d.opened k op) (op.failure c.server .closed)
  | said (frame : Json) (ha : d.Accepted k) (hw : c.writerOpen = true) :
    Returned c d k op (.notifying frame) (d.opened k op ++ [op.sequel]) (.ok ())

/-- A call comes to a stage that fits what it has queued by then, or to its end. -/
def Advances (c : Client) (k : Nat) (op : Operation) (stage : CallStage) (sent : List Json)
    (d : Client) : Prop :=
  ∃ stage' frames, d.calls[k]? = some ⟨op, stage'⟩ ∧ d.queued = c.queued ++ frames ∧
    d.Course k op (sent ++ frames) stage' ∧
    ∀ result, stage' = .done result → c.Returned d k op stage (sent ++ frames) result

structure Alike (k : Nat) (c d : Client) : Prop where
  id : idOf? k d.log = idOf? k c.log
  verdict : verdict? k d.log = verdict? k c.log
  processId : d.processId = c.processId

namespace Alike

theorem trans (h : Alike k c d) (h' : Alike k d d') : Alike k c d' :=
  ⟨h'.id.trans h.id, h'.verdict.trans h.verdict, h'.processId.trans h.processId⟩

theorem push (h : Alike k c d) {e : ClientEvent} (hk : e.requestOf? k = none)
    (hv : ∀ id, e.verdict? id = none) : Alike k c (d.push e) := by
  have hi : idOf? k (d.push e).log = idOf? k d.log := by
    rw [log_push, idOf?_append, idOf?, idOf?, List.findSome?_singleton, hk, Option.or_none]
  refine h.trans ⟨hi, ?_, rfl⟩
  rw [log_push]
  cases hid : idOf? k d.log with
  | none =>
    rw [verdict?_of_idOf?_none hid, verdict?_eq_none hid, verdict?, hk]
    rfl
  | some id => rw [verdict?_append hid, List.findSome?_singleton, hv, Option.or_none]

theorem setStage (h : Alike k c d) (stage : CallStage) : Alike k c (d.setStage k stage) :=
  ⟨h.id, h.verdict, h.processId⟩

theorem complete (h : Alike k c d) (result : Except ServerError Unit) :
    Alike k c (d.complete k result) :=
  (h.setStage _).push rfl fun _ => rfl

theorem enqueue (h : Alike k c d) (frame : Json) : Alike k c (d.enqueue frame) := by
  have hq : Alike k c { d with queue := d.queue ++ [frame] } := ⟨h.id, h.verdict, h.processId⟩
  exact hq.push rfl fun _ => rfl

theorem opened (h : Alike k c d) : d.opened k op = c.opened k op := by
  rw [Client.opened, Client.opened, h.id, h.processId]

theorem accepted (h : Alike k c d) (ha : c.Accepted k) : d.Accepted k := by
  rwa [Accepted, h.verdict]

end Alike

theorem alike (k : Nat) (c : Client) : Alike k c c := ⟨rfl, rfl, rfl⟩

theorem opened_of_standing (h : c.requests.Standing k id) (op : Operation) :
    c.opened k op = (op.opening? c.processId id).toList := by
  have hi : idOf? k c.log = some id := h.asked
  rw [opened, hi, Option.bind_some]

theorem advances_to (hd : d.calls[k]? = some ⟨op, stage'⟩) (hq : d.queued = c.queued)
    (hs : stage'.isDone = false) (hc : d.Course k op sent stage') :
    Advances c k op stage sent d := by
  refine ⟨stage', [], hd, hq.trans (List.append_nil _).symm, (List.append_nil sent).symm ▸ hc, ?_⟩
  rintro result rfl
  cases hs

theorem advances_complete (hk : d.calls[k]? = some ⟨op, stage'⟩) (hq : d.queued = c.queued)
    (hr : c.Returned (d.complete k result) k op stage sent result) :
    Advances c k op stage sent (d.complete k result) := by
  have hend : (d.complete k result).queued = d.queued :=
    (queued_push (d.setStage k (.done result)) (.completed k result)).trans (List.append_nil _)
  refine ⟨.done result, [], call_setStage hk _, ?_, trivial, ?_⟩
  · rw [hend, hq, List.append_nil]
  · rintro _ ⟨⟩
    rwa [List.append_nil]

theorem queued_settled (c : Client) (k id : Nat) (outcome : Except RequestError Json) :
    (c.push (.settled k id outcome)).queued = c.queued :=
  (queued_push c _).trans (List.append_nil _)

theorem alike_settled (c : Client) (k id : Nat) (outcome : Except RequestError Json) :
    Alike k c (c.push (.settled k id outcome)) :=
  (alike k c).push rfl fun _ => rfl

theorem standing_register (hr : Correlated c.requests) (hn : idOf? k c.log = none)
    (hk : c.requests.active[k]? = some (.number id)) (frame : Json) :
    (c.register k id frame).requests.Standing k id := by
  have hl : (c.register k id frame).requests.log = c.log ++ [.requested k id] :=
    log_push { c with pending := id :: c.pending } _
  have hi : idOf? k (c.log ++ [.requested k id]) = some id := by
    rw [idOf?_append, hn, Option.none_or]
    simp [idOf?, ClientEvent.requestOf?]
  have hv : verdict? k (c.log ++ [.requested k id]) = none := by
    rw [verdict?_of_idOf?_none hn, verdict?]
    simp [ClientEvent.requestOf?]
  have ha : c.answers.lookup id = none := by
    rw [Option.eq_none_iff_forall_ne_some]
    intro body hb
    obtain ⟨before, after, he, -⟩ := List.lookup_eq_some_iff.1 hb
    have hm : (id, body) ∈ c.answers := he ▸ List.mem_append_right _ List.mem_cons_self
    obtain ⟨k', i, -, -, hi, -⟩ := hr.underWay.answered id body hm
    exact hr.numbered.unregistered k id hk i k' hi
  refine ⟨hl ▸ hi, ?_, ?_, ?_⟩
  · rw [hl, hv]
    exact ha
  · rw [hl, hv]
    exact iff_of_true List.mem_cons_self rfl
  · rw [hl, hv]
    rintro v ⟨⟩

theorem verdict_of_cut (h : c.requests.Standing k id) (ha : c.answers.lookup id = none)
    (hp : id ∉ c.pending) : verdict? k c.log = some .cutOff := by
  obtain ⟨v, hv⟩ := Option.ne_none_iff_exists'.1 fun hn => hp (h.waits.2 hn)
  have hbody := h.answer.symm.trans ha
  rw [hv] at hbody
  cases v with
  | answered body => cases hbody
  | cutOff => exact hv
  | late => exact absurd rfl (h.timely _ hv)

theorem verdict_of_answer (h : c.requests.Standing k id) (ha : c.answers.lookup id = some body) :
    verdict? k c.log = some (.answered body) := by
  have hbody := h.answer.symm.trans ha
  obtain ⟨v, hv, hb⟩ := Option.bind_eq_some_iff.1 hbody
  cases v with
  | answered body' =>
    cases hb
    exact hv
  | cutOff | late => cases hb

theorem advances_answer (h : c.requests.Standing k id)
    (hk : c.calls[k]? = some ⟨op, .waiting id⟩) (ha : c.answers.lookup id = some body) :
    Advances c k op (.waiting id) (c.opened k op) (c.conclude k op id (.ok body)) := by
  have hv := verdict_of_answer h ha
  have hlike := alike_settled c k id (.ok body)
  have hq := queued_settled c k id (.ok body)
  unfold conclude
  dsimp only
  split
  · rename_i error he
    have hend := hlike.complete (op.rejection c.server error)
    rw [← hend.opened]
    exact advances_complete (d := c.push _) hk hq (.rejected id (hend.verdict.trans hv) he)
  · rename_i he
    have hend := hlike.setStage .answered
    refine advances_to (call_setStage (c := c.push _) hk _) hq rfl ⟨hend.opened.symm, ?_⟩
    exact hend.accepted ⟨body, hv, he⟩

theorem advances_error (hk : d.calls[k]? = some ⟨op, stage'⟩) (hq : d.queued = c.queued) (id : Nat)
    (e : RequestError)
    (hr : ∀ d', Alike k d d' → c.Returned d' k op stage sent (op.failure d.server e)) :
    Advances c k op stage sent (d.conclude k op id (.error e)) :=
  advances_complete (d := d.push _) hk ((queued_settled d k id _).trans hq)
    (hr _ ((alike_settled d k id _).complete _))

theorem advances_closed (hk : c.calls[k]? = some ⟨op, stage⟩)
    (hr : ∀ d, Alike k c d → c.Returned d k op stage sent (op.failure c.server .closed)) :
    Advances c k op stage sent (c.complete k (op.failure c.server .closed)) :=
  advances_complete hk rfl (hr _ ((alike k c).complete _))

theorem advances_number {frame : Json} (h : c.Course k op sent .begun)
    (hk : c.calls[k]? = some ⟨op, .begun⟩)
    (hf : op.opening? c.processId c.nextId = some frame) :
    Advances c k op .begun sent
      (({ c with nextId := (c.nextId + 1) % Nat.pow 2 64 }.push (.numbered k c.nextId)).setStage k
        (.numbered c.nextId frame)) := by
  obtain ⟨rfl, hn⟩ := h
  have hq := (queued_push { c with nextId := (c.nextId + 1) % Nat.pow 2 64 }
    (.numbered k c.nextId)).trans (List.append_nil _)
  have hend := (alike k { c with nextId := (c.nextId + 1) % Nat.pow 2 64 }).push
    (e := .numbered k c.nextId) rfl fun _ => rfl
  have hstage := call_setStage (c := { c with nextId := (c.nextId + 1) % Nat.pow 2 64 }.push
    (.numbered k c.nextId)) hk (.numbered c.nextId frame)
  exact advances_to hstage hq rfl ⟨rfl, hf, hend.id.trans hn⟩

theorem advances_register {frame : Json} (h : c.Course k op sent (.numbered id frame))
    (hr : Correlated c.requests) (hk : c.calls[k]? = some ⟨op, .numbered id frame⟩) :
    Advances c k op (.numbered id frame) sent (c.register k id frame) := by
  obtain ⟨rfl, hf, hn⟩ := h
  have hq := (queued_push { c with pending := id :: c.pending } (.requested k id)).trans
    (List.append_nil _)
  have hstage := call_setStage (c := { c with pending := id :: c.pending }.push
    (.requested k id)) hk (.registered id frame)
  exact advances_to hstage hq rfl ⟨rfl, hf, standing_register hr hn (active_of_call hk) frame⟩

theorem advances_giveUp (hceased : c.Ceased) (hst : c.requests.Standing k id)
    (hk : c.calls[k]? = some ⟨op, stage⟩) (hs : stage.hold = .request id) :
    Advances c k op stage [] (c.setStage k (.abandoning id .closed)) := by
  have hreq : (c.setStage k (.abandoning id .closed)).requests = c.requests :=
    requests_setStage_same (.abandoning id .closed) ((active_of_call hk).trans (congrArg some hs))
  exact advances_to (call_setStage hk _) rfl rfl ⟨rfl, hceased, hreq.symm ▸ hst⟩

theorem advances_ask {frame : Json} (h : c.Course k op sent (.requesting id frame))
    (hk : c.calls[k]? = some ⟨op, .requesting id frame⟩) :
    Advances c k op (.requesting id frame) sent ((c.enqueue frame).setStage k (.waiting id)) := by
  obtain ⟨rfl, hopening, hst⟩ := h
  have hreq : ((c.enqueue frame).setStage k (.waiting id)).requests = (c.enqueue frame).requests :=
    requests_setStage_same (c := c.enqueue frame) (.waiting id) (active_of_call hk)
  have hst' : (c.enqueue frame).requests.Standing k id :=
    hst.pass (e := .queued frame) rfl
      (requests_push { c with queue := c.queue ++ [frame] } _ ▸ rfl) rfl Iff.rfl
  have hsent := opened_of_standing (hreq ▸ hst') op
  have hopen : op.opening? ((c.enqueue frame).setStage k (.waiting id)).processId id = some frame :=
    hopening
  rw [hopen] at hsent
  refine ⟨.waiting id, [frame], call_setStage (c := c.enqueue frame) hk _,
    queued_enqueue c frame, ⟨hsent.symm, hreq ▸ hst'⟩, ?_⟩
  rintro result ⟨⟩

theorem advances_cut (h : c.Course k op sent (.waiting id))
    (hk : c.calls[k]? = some ⟨op, .waiting id⟩) (ha : c.answers.lookup id = none)
    (hp : id ∉ c.pending) :
    Advances c k op (.waiting id) sent (c.conclude k op id (.error .closed)) := by
  obtain ⟨rfl, hst⟩ := h
  refine advances_error hk rfl id .closed fun d hd => ?_
  rw [← hd.opened]
  exact .cutOff id (hd.verdict.trans (verdict_of_cut hst ha hp))

theorem advances_late (h : c.Course k op sent (.waiting id))
    (hk : c.calls[k]? = some ⟨op, .waiting id⟩) (hp : id ∈ c.pending) :
    Advances c k op (.waiting id) sent
      ((c.push (.expired k id)).setStage k (.abandoning id .timeout)) := by
  obtain ⟨rfl, hst⟩ := h
  obtain ⟨hi, hv⟩ := hst.log_append (.expired k id)
  have hl : (c.push (.expired k id)).log = c.log ++ [.expired k id] := log_push c _
  have hid : idOf? k c.log = some id := hst.asked
  rw [hst.waits.1 hp, Option.none_or, ClientEvent.verdict?, if_pos rfl] at hv
  refine advances_to (call_setStage (c := c.push _) hk _)
    ((queued_push c (.expired k id)).trans (List.append_nil _)) rfl ⟨?_, hl ▸ hv⟩
  have hi' : idOf? k ((c.push (.expired k id)).setStage k (.abandoning id .timeout)).log =
      some id := hl ▸ hi
  rw [opened, opened, hid, hi']
  rfl

theorem advances_abandon {e : RequestError} (h : c.Course k op sent (.abandoning id e))
    (hk : c.calls[k]? = some ⟨op, .abandoning id e⟩) :
    Advances c k op (.abandoning id e) sent ((c.forget id).conclude k op id (.error e)) := by
  cases e with
  | closed =>
    obtain ⟨rfl, hceased, hst⟩ := h
    refine advances_error (c := c) (d := c.forget id) hk rfl id .closed fun d hd => ?_
    exact .refused id hceased (hd.verdict ▸ hst.timely)
  | timeout =>
    obtain ⟨rfl, hv⟩ := h
    refine advances_error (c := c) (d := c.forget id) hk rfl id .timeout fun d hd => ?_
    have hopened : d.opened k op = c.opened k op := hd.opened
    rw [← hopened]
    exact .late id (hd.verdict.trans hv)

theorem advances_say {frame : Json} (h : c.Course k op sent (.notifying frame))
    (hk : c.calls[k]? = some ⟨op, .notifying frame⟩) (hw : c.writerOpen = true) :
    Advances c k op (.notifying frame) sent ((c.enqueue frame).complete k (.ok ())) := by
  obtain ⟨rfl, rfl, ha⟩ := h
  have hend := ((alike k c).enqueue op.sequel).complete (.ok ())
  have hdone := call_setStage (c := c.enqueue op.sequel) hk (.done (.ok ()))
  have hq : ((c.enqueue op.sequel).complete k (.ok ())).queued = c.queued ++ [op.sequel] :=
    ((queued_push _ _).trans (List.append_nil _)).trans (queued_enqueue c op.sequel)
  rw [← hend.opened]
  refine ⟨.done (.ok ()), [op.sequel], hdone, hq, trivial, ?_⟩
  rintro _ ⟨⟩
  exact .said _ (hend.accepted ha) hw

/-- A call with a request that goes on stays on its course, or comes to its end. -/
theorem Course.advances (h : c.Course k op sent stage) (hr : Correlated c.requests)
    (hk : c.calls[k]? = some ⟨op, stage⟩) (ho : op.Requests) (hs : stage.isDone = false)
    (ht : Turn c k op stage d) : Advances c k op stage sent d := by
  cases ht with
  | stay => exact advances_to hk rfl hs h
  | unnamed he hu =>
    rw [he, Operation.Requests, hu] at ho
    cases ho
  | turnedAway hb hd =>
    obtain rfl | rfl := hb
    · obtain ⟨rfl, hn⟩ := h
      exact advances_closed hk fun d hend => .turnedAway hd (hend.id.trans hn)
    · obtain ⟨rfl, ha⟩ := h
      refine advances_closed hk fun d hend => ?_
      rw [← hend.opened]
      exact .unwanted (hend.accepted ha) hd
  | number hd hf => exact advances_number h hk hf
  | register id frame => exact advances_register h hr hk
  | giveUp hb =>
    obtain ⟨rfl, hstop⟩ | ⟨rfl, hw⟩ := hb
    · obtain ⟨rfl, -, hst⟩ := h
      exact advances_giveUp (.inl hstop) hst hk rfl
    · obtain ⟨rfl, -, hst⟩ := h
      exact advances_giveUp (.inr hw) hst hk rfl
  | proceed id frame hstop =>
    obtain ⟨rfl, hf, hst⟩ := h
    refine advances_to (call_setStage hk _) rfl rfl ⟨rfl, hf, ?_⟩
    rwa [requests_setStage_same (.requesting id frame) (active_of_call hk)]
  | ask id frame hw hf => exact advances_ask h hk
  | answer id ha =>
    obtain ⟨rfl, hst⟩ := h
    exact advances_answer hst hk ha
  | cut id ha hp => exact advances_cut h hk ha hp
  | late id hp => exact advances_late h hk hp
  | abandon id e => exact advances_abandon h hk
  | prepare hb hd =>
    obtain rfl | ⟨-, hno⟩ := hb
    · obtain ⟨rfl, ha⟩ := h
      exact advances_to (call_setStage hk _) rfl rfl ⟨rfl, rfl, ha⟩
    · exact absurd ho hno
  | refuse frame hw =>
    obtain ⟨-, rfl, ha⟩ := h
    refine advances_closed hk fun d hend => ?_
    rw [← hend.opened]
    exact .unsaid frame (hend.accepted ha) hw
  | say frame hw hf => exact advances_say h hk hw

theorem Ceased.onward (h : c.Ceased) (ho : Onward c d) : d.Ceased :=
  h.imp ho.stopped ho.writer

theorem Course.stays (h : c.Course k op sent stage) (hr : Correlated c.requests)
    (hf : c.OwnFrames) (hk : c.calls[k]? = some ⟨op, stage⟩) (hs : stage.isDone = false)
    (ha : a.call? ≠ some k) (hn : requestCount (c.step a).log < Nat.pow 2 64) :
    (c.step a).Course k op sent stage := by
  have hc := requests_step c a
  have ho := onward_step hf a
  obtain ⟨es, hl, he⟩ := Requests.Changes.log hc ha
  have hl : (c.step a).log = c.log ++ es := hl
  have hid : idOf? k (c.step a).log = idOf? k c.log := by
    have hnone : idOf? k es = none := List.findSome?_eq_none_iff.2 he
    rw [hl, idOf?_append, hnone, Option.or_none]
  have hopened : (c.step a).opened k op = c.opened k op := by
    rw [opened, opened, hid, ho.processId]
  have verdict {v : Verdict} (hv : verdict? k c.log = some v) :
      verdict? k (c.step a).log = some v := by
    rw [hl]
    exact verdict?_append_some hv es
  have standing {id : Nat} (hst : c.requests.Standing k id) (hid : stage.hold = .request id) :
      (c.step a).requests.Standing k id :=
    hst.changes hr (hid ▸ active_of_call hk) hc ha hn
  have accepted (haccepted : c.Accepted k) : (c.step a).Accepted k := by
    obtain ⟨body, hv, hb⟩ := haccepted
    exact ⟨body, verdict hv, hb⟩
  cases stage with
  | begun => exact ⟨h.1, hid.trans h.2⟩
  | numbered id frame => exact ⟨h.1, ho.processId ▸ h.2.1, hid.trans h.2.2⟩
  | registered id frame | requesting id frame =>
    exact ⟨h.1, ho.processId ▸ h.2.1, standing h.2.2 rfl⟩
  | waiting id => exact ⟨h.1.trans hopened.symm, standing h.2 rfl⟩
  | abandoning id e =>
    cases e with
    | closed => exact ⟨h.1, h.2.1.onward ho, standing h.2.2 rfl⟩
    | timeout => exact ⟨h.1.trans hopened.symm, verdict h.2⟩
  | answered => exact ⟨h.1.trans hopened.symm, accepted h.2⟩
  | notifying frame => exact ⟨h.1, h.2.1.trans hopened.symm, accepted h.2.2⟩
  | done result => cases hs

def said (k : Nat) (c : Client) (a : ClientAction) : List Json :=
  if a.call? = some k then (c.step a).queued.drop c.queued.length else []

def sentBy (k : Nat) (c : Client) : List ClientAction → List Json
  | [] => []
  | a :: actions => said k c a ++ sentBy k (c.step a) actions

structure Courses (c : Client) (sent : Nat → List Json) : Prop where
  fresh : ∀ k, c.calls[k]? = none → sent k = [] ∧ idOf? k c.log = none
  course : ∀ k op stage, c.calls[k]? = some ⟨op, stage⟩ → op.Requests → stage.isDone = false →
    c.Course k op (sent k) stage

theorem said_of_ne (h : a.call? ≠ some k) : said k c a = [] := if_neg h

theorem said_of_same (h : c.step a = c) : said k c a = [] := by
  rw [said, h, List.drop_length, ite_self]

theorem said_of_queued (ha : a.call? = some k) (hq : (c.step a).queued = c.queued ++ frames) :
    said k c a = frames := by
  rw [said, if_pos ha, hq, List.drop_left]

theorem goes_or_same (ha : a.call? = some k) :
    c.step a = c ∨ ∃ op stage, c.calls[k]? = some ⟨op, stage⟩ ∧ stage.isDone = false := by
  by_cases hgo : ∃ op stage, c.calls[k]? = some ⟨op, stage⟩ ∧ stage.isDone = false
  · exact .inr hgo
  · refine .inl (step_of_done ha fun op stage hk => ?_)
    by_contra hs
    exact hgo ⟨op, stage, hk, Bool.eq_false_iff.2 hs⟩

theorem Courses.fresh_step {sent : Nat → List Json} (h : c.Courses sent)
    (hk : c.calls[k]? = none) (a : ClientAction) :
    sent k ++ said k c a = [] ∧ idOf? k (c.step a).log = none := by
  obtain ⟨hsent, hid⟩ := h.fresh k hk
  by_cases ha : a.call? = some k
  · have hsame := step_of_missing ha hk
    rw [said_of_same hsame, hsame, List.append_nil]
    exact ⟨hsent, hid⟩
  · obtain ⟨es, hl, he⟩ := Requests.Changes.log (requests_step c a) ha
    have hl : (c.step a).log = c.log ++ es := hl
    have hnone : idOf? k es = none := List.findSome?_eq_none_iff.2 he
    rw [said_of_ne ha, List.append_nil, hl, idOf?_append, hid, hnone]
    exact ⟨hsent, rfl⟩

theorem Courses.course_step {sent : Nat → List Json} (h : c.Courses sent)
    (hr : Correlated c.requests) (hf : c.OwnFrames)
    (hn : requestCount (c.step a).log < Nat.pow 2 64)
    (hk : c.calls[k]? = some ⟨op, stage⟩) (ho : op.Requests)
    (hd : (c.step a).calls[k]? = some ⟨op, stage'⟩) (hs' : stage'.isDone = false) :
    (c.step a).Course k op (sent k ++ said k c a) stage' := by
  by_cases ha : a.call? = some k
  · obtain hsame | ⟨_, _, hk', hs⟩ := goes_or_same (c := c) ha
    · rw [said_of_same hsame, List.append_nil]
      rw [hsame] at hd ⊢
      exact h.course k op stage' hd ho hs'
    · cases hk'.symm.trans hk
      obtain ⟨_, frames, hd', hq, hcourse, -⟩ :=
        (h.course k op stage hk ho hs).advances hr hk ho hs (turn_step hk ha)
      cases hd'.symm.trans hd
      rwa [said_of_queued ha hq]
  · cases (call_step hk ha).symm.trans hd
    rw [said_of_ne ha, List.append_nil]
    exact (h.course k op stage hk ho hs').stays hr hf hk hs' ha hn

theorem Courses.step {sent : Nat → List Json} (h : c.Courses sent) (hr : Correlated c.requests)
    (hf : c.OwnFrames) (hn : requestCount (c.step a).log < Nat.pow 2 64) :
    (c.step a).Courses fun k => sent k ++ said k c a := by
  refine ⟨fun k hk => ?_, fun k op stage' hd ho hs' => ?_⟩
  · cases hk' : c.calls[k]? with
    | none => exact h.fresh_step hk' a
    | some call =>
      obtain ⟨stage', hd, -⟩ := stage_step hk' a
      cases hk.symm.trans hd
  · cases hk : c.calls[k]? with
    | none =>
      have hstep := h.fresh_step hk a
      have ha : a.call? ≠ some k := fun ha => by
        rw [step_of_missing ha hk, hk] at hd
        cases hd
      obtain hsame | ⟨-, op', hnew⟩ := call_step_or ha c
      · cases (hsame.trans hk).symm.trans hd
      · cases hnew.symm.trans hd
        exact hstep
    | some call =>
      obtain ⟨stage, hd', -⟩ := stage_step hk a
      cases hd'.symm.trans hd
      exact h.course_step hr hf hn hk ho hd hs'

theorem sentBy_append (k : Nat) (c : Client) (actions later : List ClientAction) :
    sentBy k c (actions ++ later) = sentBy k c actions ++ sentBy k (c.run actions) later := by
  induction actions generalizing c with
  | nil => rfl
  | cons b actions ih =>
    rw [List.cons_append, sentBy, sentBy, ih, List.append_assoc]
    rfl

theorem sentBy_concat (k : Nat) (c : Client) (actions : List ClientAction) (a : ClientAction) :
    sentBy k c (actions ++ [a]) = sentBy k c actions ++ said k (c.run actions) a :=
  (sentBy_append k c actions [a]).trans (by rw [sentBy, sentBy, List.append_nil])

theorem courses_run (server : String) (processId : Nat) {actions : List ClientAction}
    (hn : ((connect server processId).run actions).calls.length < Nat.pow 2 64) :
    ((connect server processId).run actions).Courses fun k =>
      sentBy k (connect server processId) actions := by
  induction actions using List.reverseRecOn with
  | nil => exact ⟨fun _ _ => ⟨rfl, rfl⟩, nofun⟩
  | append_singleton actions a ih =>
    have hcount := requestCount_lt_run server processId hn
    rw [run_concat] at hn hcount ⊢
    have hle := length_calls_le_step ((connect server processId).run actions) a
    have hn' := Nat.lt_of_le_of_lt hle hn
    have hf := ownFrames_run (ownFrames_connect server processId) actions
    simp only [sentBy_concat]
    exact (ih hn').step (correlated_run server processId hn') hf hcount

end Client
end Switchyard.Rpc
