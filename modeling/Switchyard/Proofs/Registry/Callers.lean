import Switchyard.Proofs.Registry.Ownership
import Switchyard.Proofs.Registry.Starts

namespace Switchyard

/-- A delivery has got what a start came to. It may then wait for the server to take its
notification, or have been turned down. -/
def DeliveryStage.Got (outcome : Except ServerError Nat) : DeliveryStage → Prop
  | .sending h _ | .done (.accepted h) => outcome = .ok h
  | .done .declined => ∃ h, outcome = .ok h
  | .done (.failed error) => outcome = .error error
  | _ => False

namespace Registry

variable {r r' : Registry} {t i j e a h : Nat}

def outcome? (r : Registry) (a : Nat) : Option (Except ServerError Nat) :=
  (r.attempts[a]?).bind (·.outcome)

/-- An attempt to start the server of an entry is under way that no shutdown has overtaken. -/
def UnderWay (r : Registry) (e a : Nat) : Prop :=
  ∃ entry, r.entries[e]? = some entry ∧ r.attempts[a]? = some ⟨e, entry.slot.generation, none⟩

/-- A delivery is about to ask for the server of an entry, which is to be started if need be. -/
def Asks (r : Registry) (t i e : Nat) : Prop :=
  ∃ call errand ds, r.tasks[t]? = some ⟨call, .routing errand ds⟩ ∧ ds[i]? = some ⟨e, .begun⟩ ∧
    ∀ uri, errand ≠ .closing uri

def Awaits (r : Registry) (t i a : Nat) : Prop :=
  ∃ call errand ds e, r.tasks[t]? = some ⟨call, .routing errand ds⟩ ∧
    ds[i]? = some ⟨e, .starting a⟩

def GoesOn (r : Registry) (t i : Nat) (outcome : Except ServerError Nat) : Prop :=
  ∃ call errand ds d entry, r.tasks[t]? = some ⟨call, .routing errand ds⟩ ∧ ds[i]? = some d ∧
    r.entries[d.entry]? = some entry ∧ (r.advance errand d entry).2.Got outcome

/-- A delivery has got what a start came to, or its task has ended; a caller that wanted the
server started has been told so. -/
def HasGot (r : Registry) (t i : Nat) (outcome : Except ServerError Nat) : Prop :=
  (∃ call errand ds d, r.tasks[t]? = some ⟨call, .routing errand ds⟩ ∧ ds[i]? = some d ∧
      d.stage.Got outcome) ∨
    ∃ call result, r.tasks[t]? = some ⟨call, .done result⟩ ∧
      ∀ id, call = .start id → result = outcome.map .handle

theorem task_setDelivery {call : RegistryCall} {errand' : Errand} {ds : List Delivery}
    {old : DeliveryStage} (errand : Errand) (stage : DeliveryStage)
    (ht : r.tasks[t]? = some ⟨call, .routing errand' ds⟩) (hd : ds[i]? = some ⟨e, old⟩) :
    ∃ ds', ds'[i]? = some ⟨e, stage⟩ ∧ (∀ j, j ≠ i → ds'[j]? = ds[j]?) ∧ ds'.length = ds.length ∧
      ((ds'.all (·.stage.isDone) = false ∧
        (r.setDelivery t errand ds i stage).tasks[t]? = some ⟨call, .routing errand ds'⟩) ∨
      (ds'.all (·.stage.isDone) = true ∧
        (r.setDelivery t errand ds i stage).tasks[t]? =
          some ⟨call, .done (r.result call ds')⟩)) := by
  refine ⟨ds.modify i ({ · with stage }), ?_, ?_, List.length_modify _ _ _, ?_⟩
  · rw [List.getElem?_modify_eq, hd]
    rfl
  · intro j hne
    exact List.getElem?_modify_ne _ _ hne.symm
  · have hs : (r.setStage t (.routing errand (ds.modify i ({ · with stage })))).tasks[t]? =
        some ⟨call, .routing errand (ds.modify i ({ · with stage }))⟩ := by
      simp [setStage, ht]
    unfold setDelivery finish
    rw [hs]
    dsimp only
    split
    · rename_i hall
      refine .inr ⟨hall, ?_⟩
      simp [setStage, ht]
      rfl
    · rename_i hall
      exact .inl ⟨eq_false_of_ne_true hall, hs⟩

theorem arrive_got (r : Registry) (errand : Errand) (e : Nat) (entry : Entry) (h : Nat) :
    (r.arrive errand e entry h).2.Got (.ok h) := by
  cases errand with
  | start => rfl
  | opening uri language text => rfl
  | changing uri language text version =>
    simp only [arrive]
    split <;> rfl
  | closing uri =>
    simp only [arrive]
    split <;> rfl
  | telling method params => rfl

theorem advance_got {outcome : Except ServerError Nat} (errand : Errand) (entry : Entry)
    (ho : r.outcome? a = some outcome) :
    (r.advance errand ⟨e, .starting a⟩ entry).2.Got outcome := by
  unfold outcome? at ho
  cases outcome with
  | ok h =>
    simp only [advance, ho]
    exact arrive_got r errand e entry h
  | error error =>
    simp only [advance, ho]
    rfl

theorem advance_waits (errand : Errand) (entry : Entry) (ho : r.outcome? a = none) :
    (r.advance errand ⟨e, .starting a⟩ entry).2 = .starting a := by
  unfold outcome? at ho
  simp only [advance, ho]

theorem outcome?_before {outcome : Except ServerError Nat}
    (hb : Servers.Before r.servers r'.servers) (ho : r.outcome? a = some outcome) :
    r'.outcome? a = some outcome := by
  obtain ⟨attempt, ha, hout⟩ := Option.bind_eq_some_iff.1 ho
  obtain ⟨attempt', ha', _, _, hout'⟩ := hb.attempts a attempt ha
  exact Option.bind_eq_some_iff.2 ⟨attempt', ha', hout' outcome hout⟩

theorem result_start {stage : DeliveryStage} {outcome : Except ServerError Nat} (id : String)
    (hg : stage.Got outcome) (hd : stage.isDone = true) (hn : stage ≠ .done .declined) :
    r.result (.start id) [⟨e, stage⟩] = outcome.map .handle := by
  cases stage with
  | done delivered =>
    cases delivered with
    | accepted h =>
      cases hg
      rfl
    | declined => exact absurd rfl hn
    | failed error =>
      cases hg
      rfl
  | _ => cases hd

/-- A caller that wants a server started has one delivery, and that has not got it as long as the
task routes. -/
theorem Reachable.start_alone {id : String} {errand : Errand} {ds : List Delivery} {d : Delivery}
    (hr : r.Reachable) (ht : r.tasks[t]? = some ⟨.start id, .routing errand ds⟩)
    (hd : ds[i]? = some d) : errand = .start ∧ ds.length = 1 ∧
      (d.stage = .begun ∨ ∃ a, d.stage = .starting a) := by
  obtain ⟨hcall, _, hs⟩ := hr.taskFits t _ ht
  obtain ⟨e, stage, rfl, _, hst⟩ := hs id rfl
  cases i with
  | zero =>
    cases hd
    exact ⟨errand_of_start hcall, rfl, hst⟩
  | succ i => cases hd

theorem hasGot_setDelivery {call : RegistryCall} {errand errand' : Errand} {ds : List Delivery}
    {stage old : DeliveryStage} {outcome : Except ServerError Nat}
    (ht : r.tasks[t]? = some ⟨call, .routing errand' ds⟩) (hd : ds[j]? = some ⟨e, old⟩)
    (hg : (j = i ∧ stage.Got outcome) ∨ (i ≠ j ∧ ∃ d, ds[i]? = some d ∧ d.stage.Got outcome))
    (hs : ∀ id, call = .start id → i = j ∧ ds.length = 1 ∧ stage ≠ .done .declined) :
    (r.setDelivery t errand ds j stage).HasGot t i outcome := by
  obtain ⟨ds', hj, hother, hlen, hnew⟩ := task_setDelivery errand stage ht hd
  have hi : ∃ d, ds'[i]? = some d ∧ d.stage.Got outcome := by
    obtain ⟨rfl, hg⟩ | ⟨hne, d, hd, hg⟩ := hg
    · exact ⟨_, hj, hg⟩
    · exact ⟨d, (hother i hne).trans hd, hg⟩
  obtain ⟨d, hd', hg'⟩ := hi
  obtain ⟨_, h⟩ | ⟨hall, h⟩ := hnew
  · exact .inl ⟨call, errand, ds', d, h, hd', hg'⟩
  · refine .inr ⟨call, _, h, ?_⟩
    rintro id rfl
    obtain ⟨rfl, hl, hn⟩ := hs id rfl
    obtain ⟨x, rfl⟩ := List.length_eq_one_iff.1 (hlen.trans hl)
    cases i with
    | zero =>
      cases hj
      cases hd'
      exact result_start id hg' (by simpa using hall) hn
    | succ i => cases hj

theorem advance_start_ne_declined {stage : DeliveryStage} (entry : Entry)
    (hs : stage = .begun ∨ ∃ a, stage = .starting a) :
    (r.advance .start ⟨e, stage⟩ entry).2 ≠ .done .declined := by
  intro hd
  obtain rfl | ⟨a, rfl⟩ := hs
  · simp only [advance, seek] at hd
    split at hd
    · cases hd
    · split at hd
      · cases hd
      · cases hd
      · cases hd
  · simp only [advance] at hd
    split at hd
    · cases hd
    · cases hd
    · cases hd

theorem hasGot_deliver {call : RegistryCall} {errand : Errand} {ds : List Delivery}
    {d : Delivery} {entry : Entry} {outcome : Except ServerError Nat} (hr : r.Reachable)
    (ht : r.tasks[t]? = some ⟨call, .routing errand ds⟩) (hd : ds[i]? = some d)
    (he : r.entries[d.entry]? = some entry) (hg : (r.advance errand d entry).2.Got outcome) :
    (r.deliver t i).HasGot t i outcome := by
  unfold deliver
  simp only [ht, hd, he]
  have ht' : (r.advance errand d entry).1.tasks[t]? = some ⟨call, .routing errand ds⟩ := by
    rwa [tasks_advance]
  apply hasGot_setDelivery ht' hd (.inl ⟨rfl, hg⟩)
  rintro id rfl
  obtain ⟨rfl, hl, hs⟩ := hr.start_alone ht hd
  exact ⟨rfl, hl, advance_start_ne_declined entry hs⟩

theorem done_step {task : Task} {result : Except ServerError RegistryReply}
    {action : RegistryAction} (ht : r.tasks[t]? = some task) (hd : task.stage = .done result) :
    (r.step action).tasks[t]? = some task := by
  obtain ⟨call, stage⟩ := task
  cases hd
  exact task_quiet ht id

theorem done_run {task : Task} {result : Except ServerError RegistryReply}
    (ht : r.tasks[t]? = some task) (hd : task.stage = .done result)
    (actions : List RegistryAction) : (r.run actions).tasks[t]? = some task := by
  induction actions generalizing r with
  | nil => exact ht
  | cons action actions ih => exact ih (done_step ht hd)

/-- What a delivery has got stays got, and one that waits for an attempt gets what that has come to,
or waits on. -/
structure Follows (r : Registry) (errand : Errand) (old new : DeliveryStage) : Prop where
  got {outcome : Except ServerError Nat} : old.Got outcome → new.Got outcome
  waits {a : Nat} : old = .starting a →
    new = .starting a ∨ ∃ outcome, r.outcome? a = some outcome ∧ new.Got outcome
  start : errand = .start → (old = .begun ∨ ∃ a, old = .starting a) → new ≠ .done .declined

theorem advance_follows (errand : Errand) (d : Delivery) (entry : Entry) :
    r.Follows errand d.stage (r.advance errand d entry).2 where
  got := by
    intro outcome hg
    obtain ⟨e, stage⟩ := d
    cases stage with
    | sending h notice => exact hg
    | done outcome => exact hg
    | _ => exact hg.elim
  waits := by
    intro a ha
    obtain ⟨e, stage⟩ := d
    cases ha
    cases ho : r.outcome? a with
    | none => exact .inl (advance_waits errand entry ho)
    | some outcome => exact .inr ⟨outcome, rfl, advance_got errand entry ho⟩
  start := by
    intro he hs
    subst he
    exact advance_start_ne_declined entry hs

theorem sent_follows {errand : Errand} {e' h' : Nat} {notice : Notice} {accepted : Bool} :
    r.Follows errand (.sending h' notice) (r.sent t e' h' notice accepted).2 where
  got := by
    intro outcome hg
    unfold sent
    dsimp only
    split
    · exact hg
    · cases notice <;> exact ⟨h', hg⟩
  waits := nofun
  start := by
    rintro _ (hs | ⟨a, hs⟩) <;> cases hs

theorem routing_quiet {call : RegistryCall} {errand : Errand} {ds : List Delivery}
    {action : RegistryAction} (ht : r.tasks[t]? = some ⟨call, .routing errand ds⟩)
    (hd : ∀ j, action ≠ .deliver t j) (hs : ∀ j accepted, action ≠ .sent t j accepted) :
    (r.step action).tasks[t]? = some ⟨call, .routing errand ds⟩ := by
  refine task_quiet ht ?_
  rintro (⟨j, h⟩ | ⟨j, accepted, h⟩)
  · exact hd j h
  · exact hs j accepted h

theorem routing_step {call : RegistryCall} {errand : Errand} {ds : List Delivery}
    (ht : r.tasks[t]? = some ⟨call, .routing errand ds⟩) (action : RegistryAction) :
    (r.step action).tasks[t]? = some ⟨call, .routing errand ds⟩ ∨
      ∃ (r' : Registry) (j : Nat) (d : Delivery) (stage : DeliveryStage),
        r'.tasks[t]? = some ⟨call, .routing errand ds⟩ ∧ ds[j]? = some d ∧
          r.step action = r'.setDelivery t errand ds j stage ∧ r.Follows errand d.stage stage := by
  by_cases hd : ∃ j, action = .deliver t j
  · obtain ⟨j, rfl⟩ := hd
    simp only [Registry.step, deliver, ht]
    split
    · exact .inl ht
    rename_i d hd
    split
    · exact .inl ht
    rename_i entry _
    have ht' : (r.advance errand d entry).1.tasks[t]? = some ⟨call, .routing errand ds⟩ := by
      rwa [tasks_advance]
    exact .inr ⟨_, j, d, _, ht', hd, rfl, advance_follows errand d entry⟩
  by_cases hs : ∃ j accepted, action = .sent t j accepted
  · obtain ⟨j, accepted, rfl⟩ := hs
    simp only [Registry.step, endSending, ht]
    split
    · rename_i e h notice hd
      have ht' : (r.sent t e h notice accepted).1.tasks[t]? = some ⟨call, .routing errand ds⟩ := by
        rwa [tasks_sent]
      exact .inr ⟨_, j, _, _, ht', hd, rfl, sent_follows⟩
    · exact .inl ht
  exact .inl
    (routing_quiet ht (fun j heq => hd ⟨j, heq⟩) fun j accepted heq => hs ⟨j, accepted, heq⟩)

theorem HasGot.step {outcome : Except ServerError Nat} (hr : r.Reachable)
    (hg : r.HasGot t i outcome) (action : RegistryAction) :
    (r.step action).HasGot t i outcome := by
  obtain ⟨call, errand, ds, d, ht, hd, hgot⟩ | ⟨call, result, ht, hres⟩ := hg
  · have hc (id : String) : call ≠ .start id := by
      rintro rfl
      obtain ⟨_, _, hs | ⟨a, hs⟩⟩ := hr.start_alone ht hd
      · rw [hs] at hgot
        exact hgot
      · rw [hs] at hgot
        exact hgot
    obtain h | ⟨r', j, d', stage, ht', hd', hstep, hf⟩ := routing_step ht action
    · exact .inl ⟨call, errand, ds, d, h, hd, hgot⟩
    · -- Either this delivery goes on, or another one of the same task does.
      rw [hstep]
      apply hasGot_setDelivery ht' hd' ?_ fun id h => absurd h (hc id)
      by_cases hij : i = j
      · subst hij
        cases hd.symm.trans hd'
        exact .inl ⟨rfl, hf.got hgot⟩
      · exact .inr ⟨hij, d, hd, hgot⟩
  · exact .inr ⟨call, result, done_step ht rfl, hres⟩

theorem HasGot.run {outcome : Except ServerError Nat} (hr : r.Reachable)
    (hg : r.HasGot t i outcome) (actions : List RegistryAction) :
    (r.run actions).HasGot t i outcome := by
  induction actions generalizing r with
  | nil => exact hg
  | cons action actions ih => exact ih (hr.step action) (hg.step hr action)

theorem awaits_setDelivery {call : RegistryCall} {errand : Errand} {ds : List Delivery}
    {stage old : DeliveryStage} {e' : Nat} (ht : r.tasks[t]? = some ⟨call, .routing errand ds⟩)
    (hd : ds[j]? = some ⟨e', old⟩) (hw : (j = i ∧ e' = e ∧ stage = .starting a) ∨
      (i ≠ j ∧ ds[i]? = some ⟨e, .starting a⟩)) :
    (r.setDelivery t errand ds j stage).Awaits t i a := by
  obtain ⟨ds', hj, hother, _, hnew⟩ := task_setDelivery errand stage ht hd
  have hi : ds'[i]? = some ⟨e, .starting a⟩ := by
    obtain ⟨rfl, rfl, rfl⟩ | ⟨hne, hi⟩ := hw
    · exact hj
    · exact (hother i hne).trans hi
  obtain ⟨_, h⟩ | ⟨hall, _⟩ := hnew
  · exact ⟨call, errand, ds', e, h, hi⟩
  · cases List.all_eq_true.1 hall _ (List.mem_of_getElem? hi)

theorem Awaits.step (hr : r.Reachable) (hw : r.Awaits t i a) (action : RegistryAction) :
    (r.step action).Awaits t i a ∨ ∃ outcome, (r.step action).outcome? a = some outcome ∧
      (r.step action).HasGot t i outcome := by
  obtain ⟨call, errand, ds, e, ht, hd⟩ := hw
  have hb := (servers_steps r action).before
  obtain h | ⟨r', j, d, stage, ht', hd', hstep, hf⟩ := routing_step ht action
  · exact .inl ⟨call, errand, ds, e, h, hd⟩
  rw [hstep]
  by_cases hij : i = j
  · subst hij
    cases hd.symm.trans hd'
    obtain rfl | ⟨outcome, ho, hgot⟩ := hf.waits rfl
    · exact .inl (awaits_setDelivery ht' hd (.inl ⟨rfl, rfl, rfl⟩))
    · rw [← hstep]
      refine .inr ⟨outcome, outcome?_before hb ho, ?_⟩
      rw [hstep]
      apply hasGot_setDelivery ht' hd (.inl ⟨rfl, hgot⟩)
      rintro id rfl
      obtain ⟨herrand, hl, hs⟩ := hr.start_alone ht hd
      exact ⟨rfl, hl, hf.start herrand hs⟩
  · exact .inl (awaits_setDelivery ht' hd' (.inr ⟨hij, hd⟩))

theorem Awaits.run (hr : r.Reachable) (hw : r.Awaits t i a) (actions : List RegistryAction) :
    (r.run actions).Awaits t i a ∨ ∃ outcome, (r.run actions).outcome? a = some outcome ∧
      (r.run actions).HasGot t i outcome := by
  induction actions generalizing r with
  | nil => exact .inl hw
  | cons action actions ih =>
    have hr' := hr.step action
    obtain hw | ⟨outcome, ho, hg⟩ := hw.step hr action
    · exact ih hr' hw
    · exact .inr ⟨outcome, outcome?_before (servers_run _ actions).before ho, hg.run hr' actions⟩

theorem UnderWay.slot (hr : r.Reachable) (hu : r.UnderWay e a) :
    ∃ entry, r.entries[e]? = some entry ∧ entry.slot.state = .starting a ∧
      entry.slot.unusable = false := by
  obtain ⟨entry, he, ha⟩ := hu
  obtain ⟨slot, hs, _, hst⟩ := hr.sound.attempt ha
  cases (slot_of_entry he).symm.trans hs
  have hstate := hst rfl rfl
  refine ⟨entry, he, hstate, ?_⟩
  cases hun : entry.slot.unusable with
  | false => rfl
  | true => cases hstate.symm.trans (hr.sound.unusable (slot_of_entry he) hun)

theorem Installed.usable (hr : r.Reachable) (hi : r.Installed e h) :
    ∃ entry, r.entries[e]? = some entry ∧ entry.slot.state = .started h ∧
      entry.slot.unusable = false := by
  obtain ⟨entry, he, hstate⟩ := hi
  refine ⟨entry, he, hstate, ?_⟩
  cases hun : entry.slot.unusable with
  | false => rfl
  | true => cases hstate.symm.trans (hr.sound.unusable (slot_of_entry he) hun)

@[simp] theorem history_unlock (r : Registry) (t : Nat) (errand : Errand) :
    (r.unlock t errand).history = r.history := by
  cases errand <;> rfl

@[simp] theorem history_finish (r : Registry) (t : Nat) : (r.finish t).history = r.history := by
  unfold finish
  split
  · split
    · exact history_unlock r t _
    · rfl
  · rfl

theorem history_arrive (r : Registry) (errand : Errand) (e : Nat) (entry : Entry) (h : Nat) :
    (r.arrive errand e entry h).1.history = r.history := by
  cases errand with
  | changing uri language text version =>
    simp only [arrive]
    split <;> rfl
  | closing uri =>
    simp only [arrive]
    split <;> rfl
  | _ => rfl

theorem seek_starting {errand : Errand} {entry : Entry} (hc : ∀ uri, errand ≠ .closing uri)
    (hu : entry.slot.unusable = false) (hs : entry.slot.state = .starting a) :
    r.seek errand e entry = (r, .starting a) := by
  unfold seek
  split
  · exact absurd rfl (hc _)
  · simp [hu, hs]

theorem seek_started {errand : Errand} {entry : Entry} (hc : ∀ uri, errand ≠ .closing uri)
    (hu : entry.slot.unusable = false) (hs : entry.slot.state = .started h) :
    r.seek errand e entry = r.arrive errand e entry h := by
  unfold seek
  split
  · exact absurd rfl (hc _)
  · simp [hu, hs]

theorem Awaits.entry (hw : r.Awaits t i a) (hr : r.Reachable) :
    ∃ call errand ds e entry, r.tasks[t]? = some ⟨call, .routing errand ds⟩ ∧
      ds[i]? = some ⟨e, .starting a⟩ ∧ r.entries[e]? = some entry := by
  obtain ⟨call, errand, ds, e, ht, hd⟩ := hw
  obtain ⟨_, hds, _⟩ := hr.taskFits t _ ht
  obtain ⟨attempt, ha, rfl⟩ := hds _ (List.mem_of_getElem? hd)
  obtain ⟨slot, hs, _⟩ := hr.sound.attempt ha
  simp only [servers, List.getElem?_map] at hs
  obtain ⟨entry, he, _⟩ := Option.map_eq_some_iff.1 hs
  exact ⟨call, errand, ds, _, entry, ht, hd, he⟩

/-- One that asks while an attempt is under way starts nothing, and waits for that attempt. -/
theorem Asks.underWay (ha : r.Asks t i e) (hr : r.Reachable) (hu : r.UnderWay e a) :
    (r.step (.deliver t i)).history = r.history ∧ (r.step (.deliver t i)).Awaits t i a := by
  obtain ⟨call, errand, ds, ht, hd, hc⟩ := ha
  obtain ⟨entry, he, hstate, hun⟩ := hu.slot hr
  have hs : r.seek errand e entry = (r, .starting a) := seek_starting hc hun hstate
  have hstep : r.step (.deliver t i) = r.setDelivery t errand ds i (.starting a) := by
    simp only [step, deliver, ht, hd, he, advance, hs]
  rw [hstep]
  constructor
  · exact history_finish _ t
  · exact awaits_setDelivery ht hd (.inl ⟨rfl, rfl, rfl⟩)

/-- One that asks while there is a server starts nothing, and gets that server. -/
theorem Asks.installed (ha : r.Asks t i e) (hr : r.Reachable) (hi : r.Installed e h) :
    (r.step (.deliver t i)).history = r.history ∧ r.GoesOn t i (.ok h) := by
  obtain ⟨call, errand, ds, ht, hd, hc⟩ := ha
  obtain ⟨entry, he, hstate, hun⟩ := hi.usable hr
  have hs : r.seek errand e entry = r.arrive errand e entry h := seek_started hc hun hstate
  constructor
  · simp only [step, deliver, ht, hd, he, advance, hs, setDelivery]
    rw [history_finish]
    exact history_arrive r errand e entry h
  · refine ⟨call, errand, ds, _, entry, ht, hd, he, ?_⟩
    simp only [advance, hs]
    exact arrive_got r errand e entry h

theorem Awaits.goesOn {outcome : Except ServerError Nat} (hw : r.Awaits t i a) (hr : r.Reachable)
    (ho : r.outcome? a = some outcome) : r.GoesOn t i outcome := by
  obtain ⟨call, errand, ds, e, entry, ht, hd, he⟩ := hw.entry hr
  exact ⟨call, errand, ds, _, entry, ht, hd, he, advance_got errand entry ho⟩

theorem GoesOn.hasGot {outcome : Except ServerError Nat} (hg : r.GoesOn t i outcome)
    (hr : r.Reachable) : (r.step (.deliver t i)).HasGot t i outcome := by
  obtain ⟨call, errand, ds, d, entry, ht, hd, he, hgot⟩ := hg
  exact hasGot_deliver hr ht hd he hgot

/-- Starts are paid for, and shared. A server is started at most once more than its starts have
failed, it has exited and all servers have been shut down. Whoever asks while an attempt is under
way waits for that attempt, and gets what it comes to as soon as it has come out; whoever asks while
there is a server gets that one. -/
theorem starts_shared (hr : r.Reachable) :
    (∀ id, r.spawns id ≤ 1 + r.failures id + r.exits id + r.shutdowns) ∧
      (∀ t i e a, r.Asks t i e → r.UnderWay e a →
        (r.step (.deliver t i)).history = r.history ∧
          ∀ more, ((r.step (.deliver t i)).run more).Awaits t i a ∨
            ∃ outcome, ((r.step (.deliver t i)).run more).outcome? a = some outcome ∧
              ((r.step (.deliver t i)).run more).HasGot t i outcome) ∧
      (∀ t i a outcome, r.Awaits t i a → r.outcome? a = some outcome → r.GoesOn t i outcome) ∧
      (∀ t i e h, r.Asks t i e → r.Installed e h →
        (r.step (.deliver t i)).history = r.history ∧ r.GoesOn t i (.ok h)) ∧
      ∀ t i outcome, r.GoesOn t i outcome →
        ∀ more, ((r.step (.deliver t i)).run more).HasGot t i outcome := by
  refine ⟨spawns_le hr, ?_, ?_, ?_, ?_⟩
  · intro t i e a ha hu
    obtain ⟨hh, hw⟩ := ha.underWay hr hu
    exact ⟨hh, hw.run (hr.step _)⟩
  · intro t i a outcome hw ho
    exact hw.goesOn hr ho
  · intro t i e h ha hi
    exact ha.installed hr hi
  · intro t i outcome hg more
    exact (hg.hasGot hr).run (hr.step _) more

/-- Two callers want the server started, and the first one has begun to. -/
def twoCallers : Registry :=
  oneServer.run
    [.call (.start "ts"), .call (.start "ts"), .resume 0, .resume 1, .deliver 0 0]

theorem starts_shared_second : twoCallers.Asks 1 0 0 ∧ twoCallers.UnderWay 0 0 ∧
    (twoCallers.step (.deliver 1 0)).history = [.spawning 0] ∧
    ((twoCallers.step (.deliver 1 0)).step (.spawned 0 (.running false))).GoesOn 1 0 (.ok 0) := by
  have hr : twoCallers.Reachable := reachable_oneServer _
  have ha : twoCallers.Asks 1 0 0 := ⟨_, _, _, rfl, rfl, fun _ => nofun⟩
  have hu : twoCallers.UnderWay 0 0 := ⟨_, rfl, rfl⟩
  obtain ⟨_, hasks, _⟩ := starts_shared hr
  obtain ⟨hh, _⟩ := hasks 1 0 0 0 ha hu
  obtain ⟨_, _, hawaits, _⟩ :=
    starts_shared ((hr.step (.deliver 1 0)).step (.spawned 0 (.running false)))
  exact ⟨ha, hu, hh, hawaits 1 0 0 (.ok 0) ⟨_, _, _, _, rfl, rfl⟩ rfl⟩

end Registry
end Switchyard
