import Switchyard.Proofs.Rpc.Exits
import Switchyard.Proofs.Rpc.Rounds

namespace Switchyard.Rpc

/-- The request that a call may be long about: it waits for room, for an answer, or has waited. -/
def CallStage.lasting? : CallStage → Option Nat
  | .requesting id _ | .waiting id | .abandoning id .timeout => some id
  | _ => none

theorem CallStage.hold_of_lasting {stage : CallStage} {id : Nat} (h : stage.lasting? = some id) :
    stage.hold = .request id := by
  unfold lasting? at h
  split at h <;> cases h <;> rfl

def ReaderStage.hasCut : ReaderStage → Bool
  | .reporting _ _ | .gone => true
  | _ => false

theorem ReaderStage.isPast_of_hasCut {stage : ReaderStage} (h : stage.hasCut = true) :
    stage.isPast = true := by
  cases stage <;> first | rfl | cases h

/-- Such things happen in the steps of calls only. -/
def ClientEvent.isOwn : ClientEvent → Bool
  | .numbered _ _ | .requested _ _ | .expired _ _ | .settled _ _ _ => true
  | _ => false

namespace Requests

variable {r r' : Requests}

theorem Changes.pending_subset (h : Changes none r r') : r'.pending ⊆ r.pending := by
  induction h with
  | refl => exact List.Subset.refl _
  | tail _ hc ih =>
    refine List.Subset.trans ?_ ih
    cases hc with
    | answer => exact List.filter_sublist.subset
    | cutOff => exact List.nil_subset _
    | _ => exact List.Subset.refl _

theorem Changes.mem_log {e : ClientEvent} (h : Changes none r r') (ho : e.isOwn = true)
    (hm : e ∈ r'.log) : e ∈ r.log := by
  induction h with
  | refl => exact hm
  | tail _ hc ih =>
    refine ih ?_
    have last {e' : ClientEvent} {log : List ClientEvent} (hm : e ∈ log ++ [e'])
        (ho' : e'.isOwn = false) : e ∈ log := by
      refine (List.mem_append.1 hm).resolve_right fun h => ?_
      cases ho.symm.trans (List.mem_singleton.1 h ▸ ho')
    cases hc with
    | call => exact hm
    | @note _ e' he => exact last hm (by cases e' <;> first | rfl | cases he)
    | cutOff | answer | ignore => exact last hm rfl

end Requests

namespace Client

variable {c d : Client} {k id : Nat} {op : Operation} {stage stage' : CallStage}
  {a : ClientAction}

/-- The stream is over, and what was pending then has been cut off. -/
structure Severed (c : Client) : Prop where
  stopped : c.stopped.isSome = true
  cut : c.reader.hasCut = true

/-- No call is long about a request that is pending. -/
def Unawaited (c : Client) : Prop :=
  ∀ (k : Nat) (call : Call) (id : Nat), c.calls[k]? = some call →
    call.stage.lasting? = some id → id ∉ c.pending

theorem Turn.pending (h : Turn c k op stage d) :
    d.pending ⊆ c.pending ∨
      ∃ id frame, stage = .numbered id frame ∧ d = c.register k id frame := by
  cases h with
  | register id frame => exact .inr ⟨id, frame, rfl, rfl⟩
  | answer id | cut id =>
    obtain hd | ⟨result, hd⟩ := conclude_cases c k op id _ <;>
      exact .inl (hd ▸ List.Subset.refl _)
  | abandon id e => exact .inl List.filter_sublist.subset
  | _ => exact .inl (List.Subset.refl _)

/-- After the end of the stream a call comes to be long about a request only if it was before. -/
theorem Turn.lasts (h : Turn c k op stage d) (hs : c.stopped.isSome = true) :
    d = c ∨ ∃ stage', d.calls = (c.setStage k stage').calls ∧
      (stage'.lasting? = none ∨
        (∃ id frame, stage = .requesting id frame ∧ stage' = .waiting id) ∨
        ∃ id, stage = .waiting id ∧ stage' = .abandoning id .timeout ∧ id ∈ c.pending) := by
  cases h with
  | stay => exact .inl rfl
  | proceed id frame hn => cases hn ▸ hs
  | ask id frame => exact .inr ⟨_, rfl, .inr (.inl ⟨id, frame, rfl, rfl⟩)⟩
  | answer id | cut id =>
    obtain hd | ⟨result, hd⟩ := conclude_cases c k op id _ <;> rw [hd]
    · exact .inr ⟨.answered, rfl, .inl rfl⟩
    · exact .inr ⟨.done result, rfl, .inl rfl⟩
  | late id hp => exact .inr ⟨_, rfl, .inr (.inr ⟨id, rfl, rfl, hp⟩)⟩
  | _ => exact .inr ⟨_, rfl, .inl rfl⟩

namespace Unawaited

theorem of_setStage (h : c.Unawaited) (hk : c.calls[k]? = some ⟨op, stage⟩)
    (hc : d.calls = (c.setStage k stage').calls) (hp : d.pending ⊆ c.pending)
    (hs : ∀ id, stage'.lasting? = some id → stage.lasting? = some id) : d.Unawaited := by
  intro j call id hj hid hm
  obtain ⟨rfl, rfl⟩ | hj := call_of_setStage hk hc hj
  · exact h j _ id hk (hs id hid) (hp hm)
  · exact h j call id hj hid (hp hm)

/-- An id that is registered is new, so that nobody has been long about it. -/
theorem register (h : c.Unawaited) (hr : Correlated c.requests) {frame : Json}
    (hk : c.calls[k]? = some ⟨op, .numbered id frame⟩) : (c.register k id frame).Unawaited := by
  intro j call id' hj hid hm
  have hset : (c.register k id frame).calls = (c.setStage k (.registered id frame)).calls := rfl
  obtain ⟨-, rfl⟩ | hcall := call_of_setStage hk hset hj
  · cases hid
  · obtain rfl | hm := List.mem_cons.1 hm
    · have hactive := active_of_call hcall
      rw [CallStage.hold_of_lasting hid] at hactive
      obtain ⟨i, hi⟩ := hr.underWay.requested j id' hactive
      exact hr.numbered.unregistered k id' (active_of_call hk) i j hi
    · exact h j call id' hcall hid hm

theorem turn (h : c.Unawaited) (hs : c.stopped.isSome = true) (hr : Correlated c.requests)
    (hk : c.calls[k]? = some ⟨op, stage⟩) (ht : Turn c k op stage d) : d.Unawaited := by
  obtain hp | ⟨id, frame, rfl, rfl⟩ := ht.pending
  · obtain rfl | ⟨stage', hc, hn | ⟨id, frame, rfl, rfl⟩ | ⟨id, rfl, rfl, hm⟩⟩ := ht.lasts hs
    · exact h
    · exact h.of_setStage hk hc hp fun id hid => by cases hn.symm.trans hid
    · exact h.of_setStage hk hc hp fun _ hid => hid
    · exact absurd hm (h k _ id hk rfl)
  · exact h.register hr hk

end Unawaited

/-- Who hears of the end of the stream has begun to cut off what is pending, and when that is done
no call is long about a request that is pending. -/
structure Severs (c : Client) : Prop where
  past : c.stopped.isSome = true → c.reader.isPast = true
  unawaited : c.Severed → c.Unawaited

theorem isPast_of_stopped_step (hf : c.OwnFrames)
    (h : c.stopped.isSome = true → c.reader.isPast = true) (a : ClientAction)
    (hs : (c.step a).stopped.isSome = true) : (c.step a).reader.isPast = true := by
  obtain ⟨-, hsame⟩ | ⟨handler, rfl⟩ | ⟨rfl, reason, -, hstop⟩ := step_cases hf a
  · exact hsame.past (h (hsame.stopped ▸ hs))
  · rw [step, onExit] at hs ⊢
    split at hs <;> exact h hs
  · rw [hstop]
    rfl

theorem hasCut_dispatch (hr : c.reader = .reading) (m : Incoming) :
    (c.dispatch m).reader.hasCut = false := by
  have hcut : c.reader.hasCut = false := congrArg ReaderStage.hasCut hr
  cases m with
  | request => rfl
  | response | notification =>
    rw [dispatch]
    split <;> first | rfl | exact hcut

theorem hasCut_offerReply {reply : Json} (hr : c.reader = .replying reply) :
    (c.offerReply reply).reader.hasCut = false := by
  rw [offerReply]
  split
  · rfl
  · split
    · exact congrArg ReaderStage.hasCut hr
    · rfl

/-- The reader leaves what it does about the end only by cutting off what is pending. -/
theorem hasCut_read (h : c.read.reader.hasCut = true) :
    c.reader.hasCut = true ∨ c.read.pending = [] := by
  have still {d : Client} (hd : d.reader.hasCut = false) (hc : d.reader.hasCut = true) :
      c.reader.hasCut = true ∨ d.pending = [] := by cases hd.symm.trans hc
  unfold read at h ⊢
  split at h
  · rename_i hr
    split at h
    · rename_i m rest _
      exact still (hasCut_dispatch (c := { c with unread := rest }) hr m) h
    · cases h
    · cases h
    · exact .inl h
  · rename_i hr
    exact still (hasCut_offerReply hr) h
  · cases h
  · exact .inr rfl
  · rename_i hr
    exact .inl (congrArg ReaderStage.hasCut hr)
  · exact .inl h

/-- Whatever is neither the reader's nor a call's leaves alone how far the reader has come, and the
answers that came in. -/
theorem step_aside (ha : a.call? = none) (c : Client) :
    a = .read ∨ a = .cancelReader ∨ (c.step a).reader = c.reader ∧
      (c.step a).stopped = c.stopped ∧ (c.step a).answers = c.answers := by
  cases a with
  | resume | expire => cases ha
  | read => exact .inl rfl
  | cancelReader => exact .inr (.inl rfl)
  | onExit handler =>
    rw [step, onExit]
    split <;> exact .inr (.inr ⟨rfl, rfl, rfl⟩)
  | tearDown =>
    rw [step, tearDown]
    split <;> exact .inr (.inr ⟨rfl, rfl, rfl⟩)
  | cancelWriter =>
    rw [step, cancelWriter]
    split <;> exact .inr (.inr ⟨rfl, rfl, rfl⟩)
  | receive | failWrite | dispose =>
    rw [step]
    split <;> exact .inr (.inr ⟨rfl, rfl, rfl⟩)
  | call | endStream | write | onNotification => exact .inr (.inr ⟨rfl, rfl, rfl⟩)

theorem cancelReader_of_past (h : c.reader.isPast = true) : c.cancelReader = c := by
  rw [cancelReader]
  cases hr : c.reader with
  | stopping | reporting | gone => rfl
  | reading | replying | notifying => cases hr ▸ h

/-- Nobody but the reader severs a client. -/
theorem severed_step_of_none (hf : c.OwnFrames)
    (hpast : c.stopped.isSome = true → c.reader.isPast = true) (ha : a.call? = none)
    (h : (c.step a).Severed) : c.Severed ∨ (c.step a).pending = [] := by
  obtain rfl | rfl | ⟨hr, hs, -⟩ := step_aside ha c
  · obtain hcut | hempty := hasCut_read h.cut
    · obtain ⟨-, hsame⟩ | ⟨handler, he⟩ | ⟨-, reason, he, -⟩ := step_cases hf .read
      · exact .inl ⟨hsame.stopped ▸ h.stopped, hcut⟩
      · cases he
      · exact absurd he (not_atEnd (ReaderStage.isPast_of_hasCut hcut))
    · exact .inr hempty
  · have hstopped : c.stopped.isSome = true := (sameEnd_cancelReader c).stopped ▸ h.stopped
    rw [step, cancelReader_of_past (hpast hstopped)] at h
    exact .inl h
  · exact .inl ⟨hs ▸ h.stopped, hr ▸ h.cut⟩

theorem Unawaited.step_of_none (h : c.Unawaited) (ha : a.call? = none) : (c.step a).Unawaited := by
  intro k call id hk hid hm
  have hchanges := requests_step c a
  rw [ha] at hchanges
  obtain hb | hk := call_of_step_of_none ha hk
  · cases hb ▸ hid
  · exact h k call id hk hid (hchanges.pending_subset hm)

theorem Severs.step (hf : c.OwnFrames) (hr : Correlated c.requests) (h : c.Severs)
    (a : ClientAction) : (c.step a).Severs := by
  refine ⟨isPast_of_stopped_step hf h.past a, fun hsevered => ?_⟩
  cases ha : a.call? with
  | some k =>
    cases hk : c.calls[k]? with
    | none =>
      rw [step_of_missing ha hk] at hsevered ⊢
      exact h.unawaited hsevered
    | some call =>
      have hmoves := moves_step hf ha
      have hs : c.stopped.isSome = true := hmoves.stopped ▸ hsevered.stopped
      have hcut : c.reader.hasCut = true := hmoves.reader ▸ hsevered.cut
      exact (h.unawaited ⟨hs, hcut⟩).turn hs hr hk (turn_step hk ha)
  | none =>
    obtain hc | hempty := severed_step_of_none hf h.past ha hsevered
    · exact (h.unawaited hc).step_of_none ha
    · intro k call id _ _ hm
      rw [hempty] at hm
      cases hm

theorem severs_run (server : String) (processId : Nat) {actions : List ClientAction}
    (hn : ((connect server processId).run actions).calls.length < Nat.pow 2 64) :
    ((connect server processId).run actions).Severs := by
  induction actions using List.reverseRecOn with
  | nil => exact ⟨nofun, fun _ => nofun⟩
  | append_singleton actions a ih =>
    rw [run_concat] at hn ⊢
    have hle := length_calls_le_step ((connect server processId).run actions) a
    have hn' := Nat.lt_of_le_of_lt hle hn
    have hf := ownFrames_run (ownFrames_connect server processId) actions
    exact (ih hn').step hf (correlated_run server processId hn') a

theorem settled_conclude {j : Nat} {outcome outcome' : Except RequestError Json} {id' : Nat}
    (hm : .settled j id outcome ∈ (c.conclude k op id' outcome').history) :
    .settled j id outcome ∈ c.history ∨ j = k ∧ id = id' ∧ outcome = outcome' := by
  have hpush : ClientEvent.settled j id outcome ∈ (c.push (.settled k id' outcome')).history := by
    obtain hd | ⟨result, hd⟩ := conclude_cases c k op id' outcome' <;> rw [hd] at hm
    · exact hm
    · exact (List.mem_cons.1 hm).resolve_left nofun
  obtain he | hm := List.mem_cons.1 hpush
  · cases he
    exact .inr ⟨rfl, rfl, rfl⟩
  · exact .inl hm

/-- How the request of a call can end in a step of the call. -/
theorem Turn.settled (h : Turn c k op stage d) {j : Nat} {outcome : Except RequestError Json}
    (hm : .settled j id outcome ∈ d.history) :
    .settled j id outcome ∈ c.history ∨ outcome = .error .closed ∨
      (∃ body, outcome = .ok body ∧ c.answers.lookup id = some body) ∨
      j = k ∧ stage = .abandoning id .timeout ∧ outcome = .error .timeout := by
  cases h with
  | stay | giveUp | proceed | prepare => exact .inl hm
  | unnamed | turnedAway | number | register | ask | late | refuse =>
    exact .inl ((List.mem_cons.1 hm).resolve_left nofun)
  | say =>
    have hm := (List.mem_cons.1 hm).resolve_left nofun
    exact .inl ((List.mem_cons.1 hm).resolve_left nofun)
  | answer id ha =>
    obtain hm | ⟨-, rfl, rfl⟩ := settled_conclude hm
    · exact .inl hm
    · exact .inr (.inr (.inl ⟨_, rfl, ha⟩))
  | cut id =>
    obtain hm | ⟨-, -, rfl⟩ := settled_conclude hm
    · exact .inl hm
    · exact .inr (.inl rfl)
  | abandon id e =>
    obtain hm | ⟨rfl, rfl, rfl⟩ := settled_conclude hm
    · exact .inl hm
    · cases e with
      | closed => exact .inr (.inl rfl)
      | timeout => exact .inr (.inr (.inr ⟨rfl, rfl, rfl⟩))

def OutOfTime (c : Client) (k id : Nat) : Prop :=
  ∃ op, c.calls[k]? = some ⟨op, .abandoning id .timeout⟩

/-- From one client to the other no answer has come in, no time has run out, and the requests that
have ended were answered or out of time before, or ended because the connection is closed. -/
structure Settles (c d : Client) : Prop where
  answers : d.answers = c.answers
  late : ∀ k id : Nat, d.OutOfTime k id → c.OutOfTime k id
  settled : ∀ (k id : Nat) (outcome : Except RequestError Json),
    .settled k id outcome ∈ d.history →
      .settled k id outcome ∈ c.history ∨ outcome = .error .closed ∨
      (∃ body, outcome = .ok body ∧ c.answers.lookup id = some body) ∨
      outcome = .error .timeout ∧ c.OutOfTime k id

namespace Settles

theorem refl (c : Client) : Settles c c := ⟨rfl, fun _ _ h => h, fun _ _ _ h => .inl h⟩

theorem trans {d' : Client} (h : Settles c d) (h' : Settles d d') : Settles c d' where
  answers := h'.answers.trans h.answers
  late k id hl := h.late k id (h'.late k id hl)
  settled k id outcome hm := by
    obtain hm | hc | ⟨body, ho, ha⟩ | ⟨ho, hl⟩ := h'.settled k id outcome hm
    · exact h.settled k id outcome hm
    · exact .inr (.inl hc)
    · exact .inr (.inr (.inl ⟨body, ho, h.answers ▸ ha⟩))
    · exact .inr (.inr (.inr ⟨ho, h.late k id hl⟩))

theorem of_turn (hu : c.Unawaited) (hs : c.stopped.isSome = true)
    (hk : c.calls[k]? = some ⟨op, stage⟩) (ht : Turn c k op stage d)
    (ha : d.answers = c.answers) : Settles c d where
  answers := ha
  late j id := by
    rintro ⟨op', hj⟩
    obtain rfl | ⟨stage', hc, hn⟩ := ht.lasts hs
    · exact ⟨op', hj⟩
    obtain ⟨rfl, he⟩ | hj := call_of_setStage hk hc hj
    · cases he
      obtain hn | ⟨id', frame, -, he⟩ | ⟨id', rfl, he, hm⟩ := hn
      · cases hn
      · cases he
      · exact absurd hm (hu j _ id' hk rfl)
    · exact ⟨op', hj⟩
  settled j id outcome hm := by
    obtain hm | hc | ha | ⟨rfl, rfl, ho⟩ := ht.settled hm
    · exact .inl hm
    · exact .inr (.inl hc)
    · exact .inr (.inr (.inl ha))
    · exact .inr (.inr (.inr ⟨ho, op, hk⟩))

end Settles

theorem answers_read (h : c.reader.isPast = true) : c.read.answers = c.answers := by
  unfold read
  cases hr : c.reader with
  | stopping | reporting | gone => rfl
  | reading | replying | notifying => cases hr ▸ h

theorem answers_step_of_none (h : c.reader.isPast = true) (ha : a.call? = none) :
    (c.step a).answers = c.answers := by
  obtain rfl | rfl | ⟨-, -, hanswers⟩ := step_aside ha c
  · exact answers_read h
  · rw [step, cancelReader_of_past h]
  · exact hanswers

theorem settles_step_of_none (h : c.reader.isPast = true) (ha : a.call? = none) :
    Settles c (c.step a) where
  answers := answers_step_of_none h ha
  late k id := by
    rintro ⟨op, hk⟩
    obtain hb | hk := call_of_step_of_none ha hk
    · cases hb
    · exact ⟨op, hk⟩
  settled k id outcome hm := by
    have hchanges := requests_step c a
    rw [ha] at hchanges
    exact .inl (List.mem_reverse.1 (hchanges.mem_log rfl (List.mem_reverse.2 hm)))

theorem settles_step (hf : c.OwnFrames) (h : c.Severs) (hc : c.Severed) (a : ClientAction) :
    Settles c (c.step a) := by
  cases ha : a.call? with
  | some k =>
    cases hk : c.calls[k]? with
    | none =>
      rw [step_of_missing ha hk]
      exact .refl c
    | some call =>
      exact .of_turn (h.unawaited hc) hc.stopped hk (turn_step hk ha)
        (congrArg Client.answers (moves_step hf ha).base :)
  | none => exact settles_step_of_none (h.past hc.stopped) ha

theorem severed_read_of_severed (h : c.Severed) : c.read.Severed := by
  obtain ⟨hs, hc⟩ := h
  rw [read]
  cases hr : c.reader with
  | reporting => exact ⟨hs, rfl⟩
  | gone => exact ⟨hs, hc⟩
  | reading | replying | notifying | stopping => cases hr ▸ hc

theorem severed_step (hf : c.OwnFrames) (h : c.Severed) (a : ClientAction) :
    (c.step a).Severed := by
  cases ha : a.call? with
  | some k =>
    have hmoves := moves_step hf ha
    exact ⟨hmoves.stopped.symm ▸ h.stopped, hmoves.reader.symm ▸ h.cut⟩
  | none =>
    obtain rfl | rfl | ⟨hr, hs, -⟩ := step_aside ha c
    · exact severed_read_of_severed h
    · rwa [step, cancelReader_of_past (ReaderStage.isPast_of_hasCut h.cut)]
    · exact ⟨hs.symm ▸ h.stopped, hr.symm ▸ h.cut⟩

theorem settles_run (server : String) (processId : Nat) {actions more : List ClientAction}
    (hn : (((connect server processId).run actions).run more).calls.length < Nat.pow 2 64)
    (hc : ((connect server processId).run actions).Severed) :
    Settles ((connect server processId).run actions)
        (((connect server processId).run actions).run more) ∧
      (((connect server processId).run actions).run more).Severed := by
  induction more using List.reverseRecOn with
  | nil => exact ⟨.refl _, hc⟩
  | append_singleton more a ih =>
    rw [run_concat] at hn ⊢
    have hle := length_calls_le_step (((connect server processId).run actions).run more) a
    have hn' := Nat.lt_of_le_of_lt hle hn
    obtain ⟨hsettles, hsevered⟩ := ih hn'
    rw [← run_append] at hn' hsettles hsevered ⊢
    have hf := ownFrames_run (ownFrames_connect server processId) (actions ++ more)
    have hsevers := severs_run server processId hn'
    exact ⟨hsettles.trans (settles_step hf hsevers hsevered a), severed_step hf hsevered a⟩

/-- A call of a severed client waits for nothing but room. -/
theorem goes_on (h : c.Unawaited) (hk : c.calls[k]? = some ⟨op, stage⟩)
    (hs : stage.isDone = false) (hroom : c.isFull = false) :
    ∃ stage', (c.resume k).calls[k]? = some ⟨op, stage'⟩ ∧ stage'.left < stage.left := by
  have hleft : stage.left ≠ 0 := fun he => by
    cases hs.symm.trans ((CallStage.isDone_iff stage).2 he)
  by_cases hw : stage.left = 3
  · cases stage with
    | waiting id =>
      obtain ⟨stage', hd, hl⟩ := stage_expire hk hw
      have hp : c.pending.contains id = false :=
        Bool.eq_false_iff.2 fun hm => h k _ id hk rfl (List.contains_iff_mem.1 hm)
      have he : c.expire k = c.resume k := by simp only [expire, resume, hk, hp]; rfl
      exact ⟨stage', he ▸ hd, Nat.lt_succ_of_le hl⟩
    | _ => cases hw
  · exact stage_resume hk hroom hleft hw

/-- A call has registered a request and gives it up, with no wait in between. -/
def InPassing (c : Client) (id : Nat) : Prop :=
  ∃ (k : Nat) (op : Operation), (∃ frame, c.calls[k]? = some ⟨op, .registered id frame⟩) ∨
    c.calls[k]? = some ⟨op, .abandoning id .closed⟩

theorem inPassing_of_pending (h : c.Unawaited) (hr : Correlated c.requests)
    (hid : id ∈ c.pending) : c.InPassing id := by
  obtain ⟨k, hk⟩ := hr.underWay.waiting id hid
  obtain ⟨⟨op, stage⟩, hcall, hhold⟩ : ∃ call, c.calls[k]? = some call ∧
      call.stage.hold = .request id := by
    simpa [requests] using hk
  have hlasting : stage.lasting? ≠ some id := fun he => h k _ id hcall he hid
  cases stage with
  | registered id' frame =>
    cases hhold
    exact ⟨k, op, .inl ⟨frame, hcall⟩⟩
  | abandoning id' e =>
    cases hhold
    cases e with
    | closed => exact ⟨k, op, .inr hcall⟩
    | timeout => exact absurd rfl hlasting
  | requesting | waiting =>
    cases hhold
    exact absurd rfl hlasting
  | _ => cases hhold

def Holds (c : Client) (k : Nat) (frame : Json) : Prop :=
  ∃ call, c.calls[k]? = some call ∧ call.stage.frame? = some frame

def HasNumber (c : Client) (k id : Nat) : Prop :=
  ∃ op frame, c.calls[k]? = some ⟨op, .numbered id frame⟩

/-- From one client to the other nobody comes to have a frame for the queue, and nobody registers a
request except under an id taken before. -/
structure Stills (c d : Client) : Prop where
  disposed : d.disposed = true
  held : ∀ (k : Nat) (frame : Json), d.Holds k frame → c.Holds k frame
  numbered : ∀ k id : Nat, d.HasNumber k id → c.HasNumber k id
  requested : ∀ k id : Nat, .requested k id ∈ d.history →
    .requested k id ∈ c.history ∨ c.HasNumber k id

/-- A call that is past its look at `disposed` goes on with the frame it has. -/
theorem Turn.held (h : Turn c k op stage d) (hd : c.disposed = true) :
    d = c ∨ ∃ stage', d.calls = (c.setStage k stage').calls ∧
      (∀ frame, stage'.frame? = some frame → stage.frame? = some frame) ∧
      ∀ id frame, stage' ≠ .numbered id frame := by
  cases h with
  | stay => exact .inl rfl
  | number hn | prepare _ hn => cases hn.symm.trans hd
  | register | proceed => exact .inr ⟨_, rfl, fun _ hf => hf, nofun⟩
  | answer id | cut id =>
    obtain he | ⟨result, he⟩ := conclude_cases c k op id _ <;> rw [he]
    · exact .inr ⟨.answered, rfl, nofun, nofun⟩
    · exact .inr ⟨.done result, rfl, nofun, nofun⟩
  | _ => exact .inr ⟨_, rfl, nofun, nofun⟩

theorem requested_conclude {j id' : Nat} {outcome : Except RequestError Json}
    (hm : .requested j id ∈ (c.conclude k op id' outcome).history) :
    .requested j id ∈ c.history := by
  obtain hd | ⟨result, hd⟩ := conclude_cases c k op id' outcome <;> rw [hd] at hm
  · exact (List.mem_cons.1 hm).resolve_left nofun
  · have hm := (List.mem_cons.1 hm).resolve_left nofun
    exact (List.mem_cons.1 hm).resolve_left nofun

theorem Turn.requested (h : Turn c k op stage d) {j : Nat} (hm : .requested j id ∈ d.history) :
    .requested j id ∈ c.history ∨ j = k ∧ ∃ frame, stage = .numbered id frame := by
  cases h with
  | stay | giveUp | proceed | prepare => exact .inl hm
  | unnamed | turnedAway | number | ask | late | refuse =>
    exact .inl ((List.mem_cons.1 hm).resolve_left nofun)
  | register id' frame =>
    obtain he | hm := List.mem_cons.1 hm
    · cases he
      exact .inr ⟨rfl, frame, rfl⟩
    · exact .inl hm
  | say =>
    have hm := (List.mem_cons.1 hm).resolve_left nofun
    exact .inl ((List.mem_cons.1 hm).resolve_left nofun)
  | answer | cut => exact .inl (requested_conclude hm)
  | abandon id' => exact .inl (requested_conclude (c := c.forget id') hm)

namespace Stills

theorem refl (hd : c.disposed = true) : Stills c c :=
  ⟨hd, fun _ _ h => h, fun _ _ h => h, fun _ _ h => .inl h⟩

theorem trans {d' : Client} (h : Stills c d) (h' : Stills d d') : Stills c d' where
  disposed := h'.disposed
  held k frame hk := h.held k frame (h'.held k frame hk)
  numbered k id hk := h.numbered k id (h'.numbered k id hk)
  requested k id hm := by
    obtain hm | hk := h'.requested k id hm
    · exact h.requested k id hm
    · exact .inr (h.numbered k id hk)

theorem of_turn (hk : c.calls[k]? = some ⟨op, stage⟩) (ht : Turn c k op stage d)
    (hd : c.disposed = true) (hd' : d.disposed = true) : Stills c d := by
  obtain rfl | ⟨stage', hc, hf, hn⟩ := ht.held hd
  · exact .refl hd
  refine ⟨hd', ?_, ?_, fun j id hm => ?_⟩
  · rintro j frame ⟨call, hj, hframe⟩
    obtain ⟨rfl, rfl⟩ | hj := call_of_setStage hk hc hj
    · exact ⟨_, hk, hf frame hframe⟩
    · exact ⟨call, hj, hframe⟩
  · rintro j id ⟨op', frame, hj⟩
    obtain ⟨-, he⟩ | hj := call_of_setStage hk hc hj
    · cases he
      exact absurd rfl (hn id frame)
    · exact ⟨op', frame, hj⟩
  · obtain hm | ⟨rfl, frame, rfl⟩ := ht.requested hm
    · exact .inl hm
    · exact .inr ⟨op, frame, hk⟩

theorem step_of_none (ha : a.call? = none) (hd : (c.step a).disposed = true) :
    Stills c (c.step a) := by
  refine ⟨hd, ?_, ?_, fun k id hm => ?_⟩
  · rintro k frame ⟨call, hk, hframe⟩
    obtain hb | hk := call_of_step_of_none ha hk
    · cases hb ▸ hframe
    · exact ⟨call, hk, hframe⟩
  · rintro k id ⟨op, frame, hk⟩
    obtain hb | hk := call_of_step_of_none ha hk
    · cases hb
    · exact ⟨op, frame, hk⟩
  · have hchanges := requests_step c a
    rw [ha] at hchanges
    exact .inl (List.mem_reverse.1 (hchanges.mem_log rfl (List.mem_reverse.2 hm)))

theorem step (hf : c.OwnFrames) (hd : c.disposed = true) (a : ClientAction) :
    Stills c (c.step a) := by
  have hd' : (c.step a).disposed = true := (onward_step hf a).disposed hd
  cases ha : a.call? with
  | some k =>
    cases hk : c.calls[k]? with
    | none =>
      rw [step_of_missing ha hk]
      exact .refl hd
    | some call => exact of_turn hk (turn_step hk ha) hd hd'
  | none => exact step_of_none ha hd'

theorem run (hf : c.OwnFrames) (hd : c.disposed = true) (more : List ClientAction) :
    Stills c (c.run more) := by
  induction more generalizing c with
  | nil => exact .refl hd
  | cons a more ih =>
    have hs := step hf hd a
    exact hs.trans (ih (ownFrames_step hf a) hs.disposed)

end Stills

theorem start_of_disposed (hd : c.disposed = true)
    (hroot : ∀ root ms, op = .handshake root ms → (Uri.ofPath? root).isSome = true) :
    c.start k op = c.complete k (op.failure c.server .closed) := by
  cases op with
  | handshake root ms =>
    obtain ⟨uri, hu⟩ := Option.isSome_iff_exists.1 (hroot root ms rfl)
    simp only [start, hu, takeId, hd, if_true]
  | shutdown => simp only [start, takeId, hd, if_true]
  | notify method params => simp only [start, beginNotification, hd, if_true]

end Client

open Client

/-- Once the stream is over and what was pending has been cut off, requests are pending in passing
only, calls wait for nothing but room, and a request that has not been answered and is not out of
time by then ends because the connection is closed. -/
theorem settled_after_end (server : String) (processId : Nat) (actions more : List ClientAction)
    (hn : (((connect server processId).run actions).run more).calls.length < Nat.pow 2 64)
    (hs : ((connect server processId).run actions).Severed) :
    let c := (connect server processId).run actions
    (∀ id ∈ c.pending, c.InPassing id) ∧
    (∀ (k : Nat) (op : Operation) (stage : CallStage), c.calls[k]? = some ⟨op, stage⟩ →
      stage.isDone = false → c.isFull = false →
      ∃ stage', (c.resume k).calls[k]? = some ⟨op, stage'⟩ ∧ stage'.left < stage.left) ∧
    Settles c (c.run more) := by
  intro c
  have hn' : c.calls.length < Nat.pow 2 64 := Nat.lt_of_le_of_lt (length_calls_le_run c more) hn
  have hunawaited := (severs_run server processId hn').unawaited hs
  have hr := correlated_run server processId hn'
  refine ⟨fun id => inPassing_of_pending hunawaited hr, ?_, (settles_run server processId hn hs).1⟩
  intro k op stage hk
  exact goes_on hunawaited hk

def Client.failures (c : Client) : List (Nat × Nat × RequestError) :=
  c.outcomes.filterMap fun
    | (k, id, .error e) => some (k, id, e)
    | (_, _, .ok _) => none

example : ((connect "server" 7).run [.call .shutdown, .resume 0, .resume 0, .resume 0, .resume 0,
    .endStream, .read, .read, .expire 0]).failures = [(0, 1, .closed)] := by
  decide +kernel

/-- Whatever happens to a client that is disposed of, only calls that had a frame by then have one
for the queue, and only ids taken by then are registered; calls that begin later, or have to say
that they were answered, find the connection closed. -/
theorem still_after_dispose (server : String) (processId : Nat) (actions more : List ClientAction)
    (hd : ((connect server processId).run actions).disposed = true) :
    let c := (connect server processId).run actions
    let d := c.run more
    Stills c d ∧ d.step .dispose = d ∧
    (∀ (k : Nat) (op : Operation), d.calls[k]? = some ⟨op, .begun⟩ →
      (∀ root ms, op = .handshake root ms → (Uri.ofPath? root).isSome = true) →
      d.resume k = d.complete k (op.failure d.server .closed)) ∧
    ∀ (k : Nat) (op : Operation), d.calls[k]? = some ⟨op, .answered⟩ →
      d.resume k = d.complete k (op.failure d.server .closed) := by
  intro c d
  have hf : c.OwnFrames := ownFrames_run (ownFrames_connect server processId) actions
  have hs : Stills c d := .run hf hd more
  have hd' := hs.disposed
  refine ⟨hs, if_pos hd', fun k op hk hroot => ?_, fun k op hk => ?_⟩
  · rw [resume_eq hk]
    exact start_of_disposed hd' hroot
  · rw [resume_eq hk]
    exact if_pos hd'

/-- A request that has taken its id when the client is disposed of can still go out, and then its
time runs out. -/
theorem late_after_dispose :
    let c := (connect "server" 7).run [.call .shutdown, .resume 0, .dispose, .tearDown, .tearDown,
      .resume 0, .resume 0, .resume 0, .expire 0, .resume 0]
    c.disposal = .complete ∧ c.failures = [(0, 1, .timeout)] ∧ c.queue.length = 1 := by
  decide +kernel

end Switchyard.Rpc
