import Switchyard.Proofs.Registry.Errands

namespace Switchyard

namespace Registry

variable {r r' : Registry} {t u e h : Nat}

/-- What has been reported, and what servers have accepted, the last one first. -/
def traffic (r : Registry) : DiagnosticsHub × List RegistryEvent :=
  (r.hub, r.history.filter (·.isAcceptance))

theorem traffic_note {event : RegistryEvent} (h : event.isAcceptance = false) :
    (r.note event).traffic = r.traffic := by
  simp [traffic, note, h]

@[simp] theorem traffic_unlock (r : Registry) (t : Nat) (errand : Errand) :
    (r.unlock t errand).traffic = r.traffic := by
  cases errand <;> rfl

@[simp] theorem traffic_setStage (r : Registry) (t : Nat) (stage : TaskStage) :
    (r.setStage t stage).traffic = r.traffic := rfl

@[simp] theorem traffic_finish (r : Registry) (t : Nat) : (r.finish t).traffic = r.traffic := by
  unfold finish
  split
  · split
    · simp
    · rfl
  · rfl

theorem traffic_holdLock (r : Registry) (t : Nat) (event : DocumentEvent) (path : Path)
    (uri : String) : (r.holdLock t event path uri).traffic = r.traffic := by
  cases event with
  | closed => exact traffic_finish _ t
  | _ => rfl

theorem traffic_beginDocument (r : Registry) (t : Nat) (event : DocumentEvent) (file : Path) :
    (r.beginDocument t event file).traffic = r.traffic := by
  unfold beginDocument
  dsimp only
  split
  · rfl
  · rename_i uri _
    split
    · exact traffic_holdLock (r.requestLock t uri) t event _ uri
    · rfl

theorem traffic_takeAll (r : Registry) : (r.takeAll).1.traffic = r.traffic := by
  have hs (handles : List Nat) :
      ((handles.map RegistryEvent.shuttingDown).reverse).filter (·.isAcceptance) = [] := by
    apply List.filter_eq_nil_iff.2
    intro event hm
    obtain ⟨h, _, rfl⟩ := List.mem_map.1 (List.mem_reverse.1 hm)
    exact nofun
  rw [takeAll_eq]
  simp only [traffic, List.filter_append, hs]
  rfl

theorem traffic_begin (r : Registry) (t : Nat) (call : RegistryCall) :
    (r.begin t call).traffic = r.traffic := by
  cases call with
  | document event file => exact traffic_beginDocument r t event file
  | watched event file =>
    simp only [begin]
    split
    · exact traffic_beginDocument r t event file
    · rfl
  | start id =>
    simp only [begin]
    split <;> rfl
  | route file method params => exact traffic_finish _ t
  | prewarm dryRun languages =>
    simp only [begin]
    split
    · rfl
    · exact traffic_finish _ t
  | shutdownAll => exact traffic_takeAll r

theorem traffic_resume (r : Registry) (t : Nat) : (r.resume t).traffic = r.traffic := by
  unfold resume
  split
  · exact traffic_begin r t _
  · split
    · exact traffic_holdLock r t _ _ _
    · rfl
  · rfl

theorem traffic_read (r : Registry) (t : Nat) (result : Except FileError String) :
    (r.read t result).traffic = r.traffic := by
  unfold read
  split
  · rename_i uri _
    cases result with
    | error error => exact traffic_unlock r t (.closing uri)
    | ok text => exact traffic_finish _ t
  · rfl

theorem traffic_arrive (r : Registry) (errand : Errand) (e : Nat) (entry : Entry) (h : Nat) :
    (r.arrive errand e entry h).1.traffic = r.traffic := by
  cases errand with
  | changing uri language text version =>
    simp only [arrive]
    split <;> rfl
  | closing uri =>
    simp only [arrive]
    split <;> rfl
  | _ => rfl

theorem traffic_advance (r : Registry) (errand : Errand) (d : Delivery) (entry : Entry) :
    (r.advance errand d entry).1.traffic = r.traffic := by
  unfold advance seek
  repeat' split
  all_goals first | exact traffic_arrive r _ _ entry _ | rfl

theorem traffic_setDelivery (r : Registry) (t : Nat) (errand : Errand) (ds : List Delivery)
    (i : Nat) (stage : DeliveryStage) :
    (r.setDelivery t errand ds i stage).traffic = r.traffic := by
  unfold setDelivery
  rw [traffic_finish, traffic_setStage]

theorem traffic_deliver (r : Registry) (t i : Nat) : (r.deliver t i).traffic = r.traffic := by
  obtain h | ⟨_, _, _, _, _, -, -, -, h⟩ := deliver_cases r t i
  · rw [h]
  · rw [h, traffic_setDelivery, traffic_advance]

@[simp] theorem traffic_dispose (r : Registry) (h : Nat) : (r.dispose h).traffic = r.traffic := by
  unfold dispose
  split
  · rfl
  · split
    · rfl
    · exact traffic_note rfl

theorem traffic_exit (r : Registry) (h : Nat) : (r.exit h).traffic = r.traffic := by
  unfold exit
  repeat' split
  all_goals first | rfl | exact (traffic_dispose _ _).trans (traffic_note rfl)

theorem traffic_spawned (r : Registry) (a : Nat) (outcome : SpawnOutcome) :
    (r.spawned a outcome).traffic = r.traffic := by
  unfold spawned
  split
  · rfl
  split
  · cases outcome with
    | running exited =>
      simp only [install]
      split
      · split
        · exact traffic_exit _ _
        · rfl
      · exact traffic_dispose _ _
    | _ =>
      simp only [failAttempt]
      split
      · exact traffic_note rfl
      · rfl
  · rfl

theorem traffic_close (r : Registry) (t h : Nat) : (r.close t h).traffic = r.traffic := by
  unfold close
  split
  · split
    · exact traffic_dispose r h
    · rfl
  · rfl

def IsSending (r : Registry) (t h : Nat) (notice : Notice) : Prop :=
  ∃ (call : RegistryCall) (errand : Errand) (ds : List Delivery) (d : Delivery),
    r.tasks[t]? = some ⟨call, .routing errand ds⟩ ∧ d ∈ ds ∧ d.stage = .sending h notice

def acceptedTraffic (r : Registry) (t h : Nat) (notice : Notice) :
    DiagnosticsHub × List RegistryEvent :=
  (r.hub, .accepted t h notice :: r.history.filter (·.isAcceptance))

theorem traffic_sent (r : Registry) (t e h : Nat) (notice : Notice) (accepted : Bool) :
    (r.sent t e h notice accepted).1.traffic = r.traffic ∨
      (r.sent t e h notice accepted).1.traffic = r.acceptedTraffic t h notice := by
  unfold sent
  dsimp only
  split
  · exact .inr rfl
  · cases notice <;> exact .inl rfl

theorem traffic_endSending (r : Registry) (t i : Nat) (accepted : Bool) :
    (r.endSending t i accepted).traffic = r.traffic ∨ ∃ h notice, r.IsSending t h notice ∧
      (r.endSending t i accepted).traffic = r.acceptedTraffic t h notice := by
  obtain heq | ⟨call, errand, ds, e, h, notice, ht, hd, heq⟩ := endSending_cases r t i accepted
  · exact .inl (congrArg traffic heq)
  · rw [heq, traffic_setDelivery]
    refine (traffic_sent r t e h notice accepted).imp_right fun hs => ?_
    exact ⟨h, notice, ⟨call, errand, ds, _, ht, List.mem_of_getElem? hd, rfl⟩, hs⟩

theorem traffic_step (r : Registry) (action : RegistryAction) :
    (r.step action).traffic = r.traffic ∨
      (∃ t h notice, r.IsSending t h notice ∧
        (r.step action).traffic = r.acceptedTraffic t h notice) ∨
      (∃ h method params, action = .notify h method params) ∨ ∃ call, action = .hub call := by
  cases action with
  | call call => exact .inl rfl
  | resume t => exact .inl (traffic_resume r t)
  | read t result => exact .inl (traffic_read r t result)
  | deliver t i => exact .inl (traffic_deliver r t i)
  | sent t i accepted =>
    obtain h | ⟨h, notice, hs, heq⟩ := traffic_endSending r t i accepted
    · exact .inl h
    · exact .inr (.inl ⟨t, h, notice, hs, heq⟩)
  | spawned a outcome => exact .inl (traffic_spawned r a outcome)
  | closed t h => exact .inl (traffic_close r t h)
  | exit h => exact .inl (traffic_exit r h)
  | notify h method params => exact .inr (.inr (.inl ⟨h, method, params, rfl⟩))
  | hub call => exact .inr (.inr (.inr ⟨call, rfl⟩))

theorem mem_traffic {notice : Notice} :
    .accepted t h notice ∈ r.traffic.2 ↔ .accepted t h notice ∈ r.history := by
  simp [traffic, RegistryEvent.isAcceptance]

theorem accepted_step {notice : Notice} {action : RegistryAction}
    (hm : .accepted t h notice ∈ (r.step action).history) :
    .accepted t h notice ∈ r.history ∨ r.IsSending t h notice := by
  obtain heq | ⟨t', h', notice', hs, heq⟩ | ⟨h', method, params, rfl⟩ | ⟨call, rfl⟩ :=
    traffic_step r action
  · rw [← mem_traffic, heq, mem_traffic] at hm
    exact .inl hm
  · rw [← mem_traffic, heq] at hm
    obtain hm | hm := List.mem_cons.1 hm
    · cases hm
      exact .inr hs
    · exact .inl (List.mem_filter.1 hm).1
  · obtain ⟨hub, heq⟩ := receive_eq r h' method params
    have hs : (r.step (.notify h' method params)).history = r.history := by rw [step, heq]
    exact .inl (hs ▸ hm)
  · exact .inl hm

/-- What a server has accepted was sent for a call, by an errand of that call. -/
def AcceptedFits (r : Registry) : Prop :=
  ∀ t h notice, .accepted t h notice ∈ r.history →
    ∃ task errand e, r.tasks[t]? = some task ∧ r.ErrandFits task.call errand ∧
      errand.Sends notice ∧ r.Serves e h

theorem Reachable.acceptedFits (hr : r.Reachable) : r.AcceptedFits := by
  apply hr.induction (p := AcceptedFits)
  · intro root configs watch commandExists handshakeMs t h notice hm
    cases hm
  · intro r action hr hf t h notice hm
    have hb := (servers_steps r action).before
    have hfit : ∃ task errand e, r.tasks[t]? = some task ∧ r.ErrandFits task.call errand ∧
        errand.Sends notice ∧ r.Serves e h := by
      obtain hm | ⟨call, errand, ds, d, ht, hd, hs⟩ := accepted_step hm
      · exact hf t h notice hm
      · obtain ⟨hcall, hds, _⟩ := hr.taskFits t _ ht
        have hfits := hds d hd
        rw [hs] at hfits
        exact ⟨_, errand, d.entry, ht, hcall, hfits.1, hfits.2⟩
    obtain ⟨task, errand, e, ht, hcall, hs, hserves⟩ := hfit
    obtain ⟨task', ht', hcall'⟩ := calls_step r action t task ht
    refine ⟨task', errand, e, ht', ?_, hs, serves_before hb hserves⟩
    rw [hcall']
    exact errandFits_before hb hcall

/-- The document that a server has accepted an opening of is that of the call. -/
theorem accepted_didOpen {task : Task} {uri language text : String} {version : Int32}
    {event : DocumentEvent} {file : Path} (hr : r.Reachable) (ht : r.tasks[t]? = some task)
    (hc : task.call.document? = some (event, file))
    (hm : .accepted t h (.didOpen uri language version text) ∈ r.history) :
    Uri.ofPath? (r.resolve file) = some uri ∧ ∃ e, r.Serves e h := by
  obtain ⟨task', errand, e, ht', hcall, hs, hserves⟩ := hr.acceptedFits t h _ hm
  cases ht.symm.trans ht'
  have hreport : ∃ event path, r.Reports task.call event path uri := by
    cases errand with
    | opening uri' language' text' =>
      obtain ⟨path, hr⟩ := hcall
      cases hs
      exact ⟨_, path, hr⟩
    | changing uri' language' text' version' =>
      obtain ⟨path, hr⟩ := hcall
      obtain hs | hs := hs
      · cases hs
        exact ⟨_, path, hr⟩
      · cases hs
    | closing uri' => cases hs
    | telling method params => cases hs
    | start => cases hs
  obtain ⟨event', path, file', hdoc, rfl, huri⟩ := hreport
  cases hc.symm.trans hdoc
  exact ⟨huri, e, hserves⟩

end Registry
end Switchyard
