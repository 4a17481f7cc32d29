import Mathlib
import Switchyard.Proofs.Registry.Openings
import Switchyard.Proofs.Registry.Vacancy

namespace Switchyard

namespace Registry

variable {r r' : Registry} {t e h i a : Nat} {id : String} {action : RegistryAction}
  {call : RegistryCall} {errand : Errand} {ds : List Delivery} {d : Delivery}

/-- A delivery has a server: it is sending to it, or the start that it waits for has come to it. -/
def HasServer (r : Registry) : DeliveryStage → Prop
  | .sending _ _ => True
  | .starting a => ∃ h, r.outcome? a = some (.ok h)
  | .begun | .done _ => False

def Holds (r : Registry) (t e : Nat) : Prop :=
  ∃ call errand ds d, r.tasks[t]? = some ⟨call, .routing errand ds⟩ ∧ d ∈ ds ∧ d.entry = e ∧
    r.HasServer d.stage

def Unbegun (r : Registry) (t : Nat) : Prop :=
  ∀ task, r.tasks[t]? = some task → task.stage = .begun

theorem mem_setDelivery {call' : RegistryCall} {errand' : Errand} {ds' : List Delivery}
    {stage : DeliveryStage} {x : Delivery} (ht : r.tasks[t]? = some ⟨call, .routing errand ds⟩)
    (hd : ds[i]? = some d)
    (hnew : (r.setDelivery t errand ds i stage).tasks[t]? = some ⟨call', .routing errand' ds'⟩)
    (hm : x ∈ ds') : call' = call ∧ errand' = errand ∧ (x ∈ ds ∨ x = ⟨d.entry, stage⟩) := by
  obtain ⟨new, hi, hother, _, ⟨_, h⟩ | ⟨_, h⟩⟩ := task_setDelivery errand stage ht hd
  · cases hnew.symm.trans h
    exact ⟨rfl, rfl, (mem_of_update hi hother hm).symm⟩
  · cases hnew.symm.trans h

/-- A delivery of a task that routes has just begun, has just come out, was there before, or has
gone on as far as it could. -/
theorem delivery_of_step (ht : (r.step action).tasks[t]? = some ⟨call, .routing errand ds⟩)
    (hm : d ∈ ds) :
    d.stage = .begun ∨ d.stage.isDone = true ∨
      ∃ old, r.tasks[t]? = some ⟨call, .routing errand old⟩ ∧
        (d ∈ old ∨ ∃ x entry, x ∈ old ∧ r.entries[x.entry]? = some entry ∧
          d = ⟨x.entry, (r.advance errand x entry).2⟩) := by
  by_cases hd : ∃ j, action = .deliver t j
  · obtain ⟨j, rfl⟩ := hd
    simp only [step, deliver] at ht
    split at ht
    case h_2 => exact .inr (.inr ⟨ds, ht, .inl hm⟩)
    rename_i call' errand' old hold
    split at ht
    · exact .inr (.inr ⟨ds, ht, .inl hm⟩)
    rename_i x hx
    split at ht
    · exact .inr (.inr ⟨ds, ht, .inl hm⟩)
    rename_i entry he
    have hold' : (r.advance errand' x entry).1.tasks[t]? = some ⟨call', .routing errand' old⟩ := by
      rwa [tasks_advance]
    obtain ⟨rfl, rfl, hmem⟩ := mem_setDelivery hold' hx ht hm
    refine .inr (.inr ⟨old, hold, hmem.imp_right fun heq => ?_⟩)
    exact ⟨x, entry, List.mem_of_getElem? hx, he, heq⟩
  by_cases hs : ∃ j accepted, action = .sent t j accepted
  · obtain ⟨j, accepted, rfl⟩ := hs
    simp only [step, endSending] at ht
    split at ht
    case h_2 => exact .inr (.inr ⟨ds, ht, .inl hm⟩)
    rename_i call' errand' old hold
    split at ht
    case h_2 => exact .inr (.inr ⟨ds, ht, .inl hm⟩)
    rename_i e h notice hx
    have hold' : (r.sent t e h notice accepted).1.tasks[t]? =
        some ⟨call', .routing errand' old⟩ := by rwa [tasks_sent]
    obtain ⟨rfl, rfl, hmem⟩ := mem_setDelivery hold' hx ht hm
    obtain hmem | rfl := hmem
    · exact .inr (.inr ⟨old, hold, .inl hmem⟩)
    · refine .inr (.inl ?_)
      unfold sent
      dsimp only
      split
      · rfl
      · cases notice <;> rfl
  obtain h | h := afresh_step (r := r) (t := t) (fun j heq => hd ⟨j, heq⟩)
    fun j accepted heq => hs ⟨j, accepted, heq⟩
  · obtain ⟨es, _, rfl⟩ := h call errand ds ht
    obtain ⟨e, _, rfl⟩ := List.mem_map.1 hm
    exact .inl rfl
  · exact .inr (.inr ⟨ds, h.symm.trans ht, .inl hm⟩)

theorem outcome?_of_step (hr : r.Reachable) (hv : r.Vacant e true) {attempt : StartAttempt}
    (ha : r.attempts[a]? = some attempt) (he : attempt.entry = e)
    (ho : (r.step action).outcome? a = some (.ok h)) : r.outcome? a = some (.ok h) := by
  obtain ⟨new, hnew, hout⟩ := Option.bind_eq_some_iff.1 ho
  obtain ⟨new', hnew', hentry, _⟩ := (servers_steps r action).before.attempts a attempt ha
  cases hnew.symm.trans hnew'
  have hold := Servers.Steps.no_server (servers_steps r action) hr.sound (vacant_iff.1 hv) hnew
    (hentry.trans he) hout
  exact Option.bind_eq_some_iff.2 ⟨new, hold, hout⟩

theorem not_hasServer_of_done {stage : DeliveryStage} (hd : stage.isDone = true) :
    ¬ r.HasServer stage := by
  cases stage with
  | done outcome => exact id
  | _ => cases hd

theorem hasServer_of_step {stage : DeliveryStage} (hr : r.Reachable) (hv : r.Vacant e true)
    (hf : r.DeliveryFits errand e stage) (hs : (r.step action).HasServer stage) :
    r.HasServer stage := by
  cases stage with
  | starting a =>
    obtain ⟨attempt, ha, he⟩ := hf
    obtain ⟨h, ho⟩ := hs
    exact ⟨h, outcome?_of_step hr hv ha he ho⟩
  | _ => exact hs

/-- A delivery to an entry that is ruled out stays as it is, comes out, or had a server before. -/
theorem advance_ruledOut {entry : Entry} (errand : Errand) (hv : r.Vacant e true)
    (hd : d.entry = e) (he : r.entries[d.entry]? = some entry) :
    (r.advance errand d entry).2 = d.stage ∨ (r.advance errand d entry).2.isDone = true ∨
      r.HasServer d.stage := by
  obtain ⟨e', stage⟩ := d
  cases hd
  obtain ⟨entry', he', hstate, hu⟩ := hv
  cases he.symm.trans he'
  cases stage with
  | begun =>
    have hn : entry.handle? = none := by
      unfold Entry.handle?
      rw [hstate]
    simp only [advance, seek, hu, hn, if_true]
    split <;> exact .inr (.inl rfl)
  | starting a =>
    cases ho : r.outcome? a with
    | none => exact .inl (advance_waits errand entry ho)
    | some outcome =>
      cases outcome with
      | ok h => exact .inr (.inr ⟨h, ho⟩)
      | error error =>
        unfold outcome? at ho
        simp only [advance, ho]
        exact .inr (.inl rfl)
  | _ => exact .inl rfl

theorem Holds.of_step (hr : r.Reachable) (hv : r.Vacant e true)
    (hh : (r.step action).Holds t e) : r.Holds t e := by
  obtain ⟨call, errand, ds, d, ht, hm, hd, hs⟩ := hh
  obtain hb | hdone | ⟨old, hold, hmem⟩ := delivery_of_step ht hm
  · rw [hb] at hs
    exact hs.elim
  · exact absurd hs (not_hasServer_of_done hdone)
  obtain ⟨_, hfits, _⟩ := hr.taskFits t _ hold
  obtain hmem | ⟨x, entry, hx, he, rfl⟩ := hmem
  · have hf := hfits d hmem
    rw [hd] at hf
    exact ⟨call, errand, old, d, hold, hmem, hd, hasServer_of_step hr hv hf hs⟩
  · have hx' : x.entry = e := hd
    have hs' : (r.step action).HasServer (r.advance errand x entry).2 := hs
    have hf := hfits x hx
    rw [hx'] at hf
    obtain hsame | hdone | hhas := advance_ruledOut errand hv hx' he
    · rw [hsame] at hs'
      exact ⟨call, errand, old, x, hold, hx, hx', hasServer_of_step hr hv hf hs'⟩
    · exact absurd hs' (not_hasServer_of_done hdone)
    · exact ⟨call, errand, old, x, hold, hx, hx', hhas⟩

theorem accepted_of_step {notice : Notice} {handle : Handle} (hr : r.Reachable)
    (hn : ¬ r.Holds t e) (hm : .accepted t h notice ∈ (r.step action).history)
    (hh : (r.step action).handles[h]? = some handle) (he : handle.entry = e) :
    .accepted t h notice ∈ r.history := by
  obtain hm | ⟨call, errand, ds, d, ht, hmem, hst⟩ := accepted_step hm
  · exact hm
  obtain ⟨_, hfits, _⟩ := hr.taskFits t _ ht
  have hf := hfits d hmem
  rw [hst] at hf
  obtain ⟨_, old, hold, hentry, _⟩ := hf
  obtain ⟨new, hnew, hsame, _⟩ := (servers_steps r action).before.handles h old hold
  cases hh.symm.trans hnew
  refine absurd ⟨call, errand, ds, d, ht, hmem, ?_, ?_⟩ hn
  · rw [← hentry, ← hsame, he]
  · rw [hst]
    trivial

theorem Reachable.findIdx?_eq (hr : r.Reachable) (hid : r.isEntry id e = true) :
    r.entries.findIdx? (·.config.id == id) = some e := by
  obtain ⟨entry, he, hconfig⟩ := isEntry_iff.1 hid
  cases hf : r.entries.findIdx? (·.config.id == id) with
  | none =>
    have hne := List.findIdx?_eq_none_iff.1 hf entry (List.mem_of_getElem? he)
    simp [hconfig] at hne
  | some e' => rw [hr.isEntry_unique hid (isEntry_of_findIdx? hf)]

/-- What becomes of a caller that wants a server started that is ruled out. -/
def Refused (e : Nat) (id : String) : TaskStage → Prop
  | .begun => True
  | .routing errand ds => errand = .start ∧ ds = [⟨e, .begun⟩]
  | .done result => result = .error (.unusable id)
  | .locking _ _ _ | .reading _ _ _ | .closing _ => False

theorem resume_start (hr : r.Reachable) (hid : r.isEntry id e = true)
    (ht : r.tasks[t]? = some ⟨.start id, .begun⟩) :
    (r.step (.resume t)).tasks[t]? = some ⟨.start id, .routing .start [⟨e, .begun⟩]⟩ := by
  simp [step, resume, ht, begin, hr.findIdx?_eq hid, routeTo, setStage]

theorem deliver_start (hv : r.Vacant e true) (hid : r.isEntry id e = true)
    (ht : r.tasks[t]? = some ⟨.start id, .routing .start [⟨e, .begun⟩]⟩) :
    (r.step (.deliver t 0)).tasks[t]? = some ⟨.start id, .done (.error (.unusable id))⟩ := by
  obtain ⟨entry, he, rfl⟩ := isEntry_iff.1 hid
  obtain ⟨entry', he', _, hu⟩ := hv
  cases he.symm.trans he'
  simp [step, deliver, ht, he, advance, seek, hu, setDelivery, setStage, finish, unlock, result,
    DeliveryStage.isDone]

/-- A task with one delivery, which sends nothing yet, goes on only by letting that go on. -/
theorem single_quiet {stage : DeliveryStage} (hs : ∀ h notice, stage ≠ .sending h notice)
    (ht : r.tasks[t]? = some ⟨call, .routing errand [⟨e, stage⟩]⟩) (hn : action ≠ .deliver t 0) :
    (r.step action).tasks[t]? = some ⟨call, .routing errand [⟨e, stage⟩]⟩ := by
  by_cases hd : ∃ j, action = .deliver t j
  · obtain ⟨j, rfl⟩ := hd
    cases j with
    | zero => exact absurd rfl hn
    | succ j => simp [step, deliver, ht]
  by_cases hsent : ∃ j accepted, action = .sent t j accepted
  · obtain ⟨j, accepted, rfl⟩ := hsent
    have hself : r.endSending t j accepted = r := by
      simp only [endSending, ht]
      cases j with
      | zero =>
        cases stage with
        | sending h notice => exact absurd rfl (hs h notice)
        | _ => rfl
      | succ j => rfl
    rwa [step, hself]
  exact routing_quiet ht (fun j heq => hd ⟨j, heq⟩) fun j accepted heq => hsent ⟨j, accepted, heq⟩

theorem Refused.step {stage : TaskStage} (hr : r.Reachable) (hv : r.Vacant e true)
    (hid : r.isEntry id e = true) (ht : r.tasks[t]? = some ⟨.start id, stage⟩)
    (hs : Refused e id stage) (action : RegistryAction) :
    ∃ stage', (r.step action).tasks[t]? = some ⟨.start id, stage'⟩ ∧ Refused e id stage' := by
  cases stage with
  | begun =>
    by_cases ha : action = .resume t
    · subst ha
      exact ⟨_, resume_start hr hid ht, rfl, rfl⟩
    · exact ⟨_, task_quiet ht ha, hs⟩
  | routing errand ds =>
    obtain ⟨rfl, rfl⟩ := hs
    by_cases ha : action = .deliver t 0
    · subst ha
      exact ⟨_, deliver_start hv hid ht, rfl⟩
    · exact ⟨_, single_quiet (fun _ _ h => by cases h) ht ha, rfl, rfl⟩
  | done result => exact ⟨_, done_step ht rfl, hs⟩
  | _ => exact hs.elim

/-- What becomes of a caller that wants the servers for a project started, and names one that is
ruled out in no case. -/
def Spares (e : Nat) (id : String) : TaskStage → Prop
  | .begun => True
  | .routing _ ds => ∀ d ∈ ds, d.entry ≠ e
  | .done result => ∀ ids, result = .ok (.ids ids) → id ∉ ids
  | .locking _ _ _ | .reading _ _ _ | .closing _ => False

theorem not_mem_ids {es : List Nat} (hunique : ∀ e', r.isEntry id e' = true → e' = e)
    (hne : e ∉ es) : id ∉ es.filterMap fun e' => (r.entries[e']?).map (·.config.id) := by
  intro hm
  obtain ⟨e', he', heq⟩ := List.mem_filterMap.1 hm
  obtain ⟨entry, hentry, hconfig⟩ := Option.map_eq_some_iff.1 heq
  rw [hunique e' (isEntry_iff.2 ⟨entry, hentry, hconfig⟩)] at he'
  exact hne he'

theorem Vacant.not_candidate (hv : r.Vacant e true) (languages : List String) :
    e ∉ r.candidates languages := by
  intro hm
  obtain ⟨entry, he, _, hu⟩ := hv
  have hany := (List.mem_filter.1 hm).2
  simp [he, Entry.isIdle, hu] at hany

theorem spares_result {dryRun : Bool} {languages : List String}
    (hunique : ∀ e', r.isEntry id e' = true → e' = e) (hne : ∀ d ∈ ds, d.entry ≠ e) :
    Spares e id (.done (r.result (.prewarm dryRun languages) ds)) := by
  have hmem : e ∉ ds.map (·.entry) := by
    intro hm
    obtain ⟨d, hd, heq⟩ := List.mem_map.1 hm
    exact hne d hd heq
  have hids := not_mem_ids hunique hmem
  rw [List.filterMap_map] at hids
  rintro ids ⟨⟩
  exact hids

theorem task_setStage {stage : TaskStage} (ht : r.tasks[t]? = some ⟨call, stage⟩)
    (new : TaskStage) : (r.setStage t new).tasks[t]? = some ⟨call, new⟩ := by
  simp [setStage, ht]

theorem task_finish (ht : r.tasks[t]? = some ⟨call, .routing errand ds⟩) :
    (r.finish t).tasks[t]? = some ⟨call, .routing errand ds⟩ ∨
      (r.finish t).tasks[t]? = some ⟨call, .done (r.result call ds)⟩ := by
  simp only [finish, ht]
  split
  · rw [← tasks_unlock r t errand] at ht
    exact .inr (task_setStage ht _)
  · exact .inl ht

theorem resume_prewarm {dryRun : Bool} {languages : List String} (hr : r.Reachable)
    (hv : r.Vacant e true) (hid : r.isEntry id e = true)
    (ht : r.tasks[t]? = some ⟨.prewarm dryRun languages, .begun⟩) :
    ∃ stage, (r.step (.resume t)).tasks[t]? = some ⟨.prewarm dryRun languages, stage⟩ ∧
      Spares e id stage := by
  have hunique (e' : Nat) (hid' : r.isEntry id e' = true) : e' = e := hr.isEntry_unique hid hid'
  have hnot := hv.not_candidate languages
  simp only [step, resume, ht, begin]
  split
  · refine ⟨_, task_setStage ht _, ?_⟩
    rintro ids ⟨⟩
    exact not_mem_ids hunique hnot
  · let ds : List Delivery := (r.candidates languages).map fun e => ⟨e, .begun⟩
    have hroute : (r.routeTo t .start (r.candidates languages)).tasks[t]? =
        some ⟨.prewarm dryRun languages, .routing .start ds⟩ := task_setStage ht _
    have hne : ∀ d ∈ ds, d.entry ≠ e := by
      intro d hd heq
      obtain ⟨e', he', rfl⟩ := List.mem_map.1 hd
      exact hnot (heq ▸ he')
    obtain h | h := task_finish hroute
    · exact ⟨_, h, hne⟩
    · exact ⟨_, h, spares_result (r := r.routeTo t .start (r.candidates languages)) hunique hne⟩

theorem Spares.step {stage : TaskStage} {dryRun : Bool} {languages : List String}
    (hr : r.Reachable) (hv : r.Vacant e true) (hid : r.isEntry id e = true)
    (ht : r.tasks[t]? = some ⟨.prewarm dryRun languages, stage⟩) (hs : Spares e id stage)
    (action : RegistryAction) :
    ∃ stage', (r.step action).tasks[t]? = some ⟨.prewarm dryRun languages, stage'⟩ ∧
      Spares e id stage' := by
  cases stage with
  | begun =>
    by_cases ha : action = .resume t
    · subst ha
      exact resume_prewarm hr hv hid ht
    · exact ⟨_, task_quiet ht ha, hs⟩
  | routing errand ds =>
    obtain h | ⟨r', j, d, stage, ht', hd, hstep, _⟩ := routing_step ht action
    · exact ⟨_, h, hs⟩
    have hunique (e' : Nat) (hid' : r'.isEntry id e' = true) : e' = e := by
      have hentries : (r.step action).entries = r'.entries := by
        rw [hstep]
        exact entries_finish _ t
      rw [isEntry, ← hentries] at hid'
      have hsame := isEntry_before (servers_steps r action).before id e'
      exact hr.isEntry_unique hid (hsame.symm.trans hid')
    obtain ⟨ds', hj, hother, _, h⟩ := task_setDelivery errand stage ht' hd
    have hne : ∀ x ∈ ds', x.entry ≠ e := by
      intro x hx
      obtain rfl | hx := mem_of_update hj hother hx
      · exact hs d (List.mem_of_getElem? hd)
      · exact hs x hx
    rw [hstep]
    obtain ⟨_, h⟩ | ⟨_, h⟩ := h
    · exact ⟨_, h, hne⟩
    · exact ⟨_, h, spares_result hunique hne⟩
  | done result => exact ⟨_, done_step ht rfl, hs⟩
  | _ => exact hs.elim

theorem new_task {task : Task} (hn : r.tasks[t]? = none)
    (ht : (r.step action).tasks[t]? = some task) : task.stage = .begun := by
  obtain ⟨call, _, h⟩ | ⟨u, _, h⟩ | ⟨_, h⟩ := tasks_step r action
  · rw [h] at ht
    obtain ⟨_, rfl⟩ | hold := getElem?_concat_cases ht
    · rfl
    · cases hn.symm.trans hold
  · obtain h | ⟨stage, h⟩ := h
    · rw [h, hn] at ht
      cases ht
    · rw [h, List.getElem?_modify, hn] at ht
      cases ht
  · rw [h, hn] at ht
    cases ht

/-- What every step keeps of a task of some call holds of all such tasks that had not begun. -/
theorem unbegun_run {p : TaskStage → Prop} (hbegun : p .begun)
    (hstep : ∀ (r : Registry) (stage : TaskStage) (action : RegistryAction), r.Reachable →
      r.Vacant e true → r.isEntry id e = true → r.tasks[t]? = some ⟨call, stage⟩ → p stage →
        ∃ stage', (r.step action).tasks[t]? = some ⟨call, stage'⟩ ∧ p stage')
    (hr : r.Reachable) (hv : r.Vacant e true) (hid : r.isEntry id e = true) (hu : r.Unbegun t)
    (more : List RegistryAction) {stage : TaskStage}
    (ht : (r.run more).tasks[t]? = some ⟨call, stage⟩) : p stage := by
  have hold (stage : TaskStage) (h : r.tasks[t]? = some ⟨call, stage⟩) : p stage := by
    cases hu _ h
    exact hbegun
  clear hu
  induction more generalizing r with
  | nil => exact hold stage ht
  | cons action more ih =>
    refine ih (hr.step action) (hv.ruledOut_run hr hid [action]).1 (isEntry_run hid [action]) ht ?_
    intro stage hnew
    cases h : r.tasks[t]? with
    | none =>
      cases new_task h hnew
      exact hbegun
    | some task =>
      obtain ⟨new, hnew', hcall⟩ := calls_step r action t task h
      obtain ⟨call', stage'⟩ := task
      cases hnew.symm.trans hnew'
      cases hcall
      obtain ⟨stage'', h', hp⟩ := hstep r stage' action hr hv hid h (hold stage' h)
      cases hnew.symm.trans h'
      exact hp

theorem Holds.of_run (hr : r.Reachable) (hv : r.Vacant e true) (hid : r.isEntry id e = true)
    {more : List RegistryAction} (hh : (r.run more).Holds t e) : r.Holds t e := by
  induction more generalizing r with
  | nil => exact hh
  | cons action more ih =>
    have hh' := ih (hr.step action) (hv.ruledOut_run hr hid [action]).1
      (isEntry_run hid [action]) hh
    exact hh'.of_step hr hv

theorem accepted_of_run {notice : Notice} {handle : Handle} (hr : r.Reachable)
    (hv : r.Vacant e true) (hid : r.isEntry id e = true) (hn : ¬ r.Holds t e)
    {more : List RegistryAction} (hm : .accepted t h notice ∈ (r.run more).history)
    (hh : (r.run more).handles[h]? = some handle) (he : handle.entry = e) :
    .accepted t h notice ∈ r.history := by
  induction more using List.reverseRecOn generalizing handle with
  | nil => exact hm
  | append_singleton more action ih =>
    rw [run_append] at hm hh
    have hr' := hr.run more
    have hn' : ¬ (r.run more).Holds t e := fun h => hn (h.of_run hr hv hid)
    have hm' := accepted_of_step hr' hn' hm hh he
    obtain ⟨_, _, _, _, _, _, old, hold, _⟩ := hr'.acceptedFits t h notice hm'
    obtain ⟨new, hnew, hentry, _⟩ := (servers_steps (r.run more) action).before.handles h old hold
    cases hh.symm.trans hnew
    exact ih hm' hold (hentry.symm.trans he)

/-- Starting the server of an entry came to an error that says that it is ruled out. -/
def SpawnerRefused (r : Registry) (e : Nat) (id : String) : Prop :=
  ∃ (a : Nat) (attempt : StartAttempt), r.attempts[a]? = some attempt ∧ attempt.entry = e ∧
    attempt.outcome = some (.error (.unusable id))

theorem SpawnerRefused.step (hx : r.SpawnerRefused e id) (action : RegistryAction) :
    (r.step action).SpawnerRefused e id := by
  obtain ⟨a, attempt, ha, he, ho⟩ := hx
  obtain ⟨new, hnew, hentry, _, hout⟩ := (servers_steps r action).before.attempts a attempt ha
  exact ⟨a, new, hnew, hentry.trans he, hout _ ho⟩

theorem Mendable.of_step (hm : (r.step action).Mendable e) : r.Mendable e := by
  intro error hfailed
  have hevents := Servers.Steps.events_suffix (servers_steps r action)
  exact hm error ((mem_events rfl).1 (hevents.subset ((mem_events rfl).2 hfailed)))

/-- A caller that wants a server started fails for what the start came to, or because the entry is
ruled out. -/
theorem start_failed {stage : DeliveryStage} {entry : Entry} {error : ServerError}
    (he : r.entries[e]? = some entry) (hstage : stage = .begun ∨ ∃ a, stage = .starting a)
    (ht : r.tasks[t]? = some ⟨.start id, .routing .start [⟨e, stage⟩]⟩)
    (hnew : (r.step (.deliver t 0)).tasks[t]? = some ⟨.start id, .done (.error error)⟩) :
    (entry.slot.unusable = true ∧ error = .unusable entry.config.id) ∨
      ∃ a, stage = .starting a ∧ r.outcome? a = some (.error error) := by
  have hstep : r.step (.deliver t 0) = (r.advance .start ⟨e, stage⟩ entry).1.setDelivery t .start
      [⟨e, stage⟩] 0 (r.advance .start ⟨e, stage⟩ entry).2 := deliver_eq ht rfl he
  have ht' : (r.advance .start ⟨e, stage⟩ entry).1.tasks[t]? =
      some ⟨.start id, .routing .start [⟨e, stage⟩]⟩ := by rwa [tasks_advance]
  have hfirst : [(⟨e, stage⟩ : Delivery)][0]? = some ⟨e, stage⟩ := rfl
  obtain ⟨ds, hd, _, hl, hout⟩ :=
    task_setDelivery .start (r.advance .start ⟨e, stage⟩ entry).2 ht' hfirst
  obtain ⟨d, rfl⟩ := List.length_eq_one_iff.1 hl
  cases hd
  rw [hstep] at hnew
  obtain ⟨_, h⟩ | ⟨_, h⟩ := hout
  · cases hnew.symm.trans h
  have hresult := hnew.symm.trans h
  obtain rfl | ⟨a, rfl⟩ := hstage
  · simp only [advance, seek] at hresult
    split at hresult
    · rename_i hu
      cases hresult
      exact .inl ⟨hu, rfl⟩
    · split at hresult <;> cases hresult
  · cases ho : r.outcome? a with
    | none =>
      rw [advance_waits .start entry ho] at hresult
      cases hresult
    | some outcome =>
      unfold outcome? at ho
      cases outcome with
      | ok h =>
        simp only [advance, ho, arrive] at hresult
        cases hresult
      | error error' =>
        simp only [advance, ho] at hresult
        cases hresult
        exact .inr ⟨a, rfl, ho⟩

/-- Nobody is told that a server is ruled out whose failures can all be mended, unless the spawner
said so itself. -/
theorem Reachable.refusals (hr : r.Reachable) {id' : String} (hm : r.Mendable e)
    (hid : r.isEntry id e = true)
    (ht : r.tasks[t]? = some ⟨.start id, .done (.error (.unusable id'))⟩) :
    r.SpawnerRefused e id' := by
  refine hr.induction (p := fun r => ∀ t, r.Mendable e → r.isEntry id e = true →
    r.tasks[t]? = some ⟨.start id, .done (.error (.unusable id'))⟩ → r.SpawnerRefused e id') ?_ ?_
    t hm hid ht
  · intro root configs watch commandExists handshakeMs t _ _ ht
    cases ht
  intro r action hr ih t hm hid ht
  have hm' : r.Mendable e := hm.of_step
  have hid' : r.isEntry id e = true :=
    (isEntry_before (servers_steps r action).before id e).symm.trans hid
  have hold (h : r.tasks[t]? = some ⟨.start id, .done (.error (.unusable id'))⟩) :
      (r.step action).SpawnerRefused e id' := (ih t hm' hid' h).step action
  cases htask : r.tasks[t]? with
  | none => cases new_task htask ht
  | some task =>
    obtain ⟨new, hnew, hcall⟩ := calls_step r action t task htask
    cases ht.symm.trans hnew
    obtain ⟨call, stage⟩ := task
    cases hcall
    have hfits := hr.taskFits t _ htask
    cases stage with
    | begun =>
      by_cases ha : action = .resume t
      · subst ha
        cases ht.symm.trans (resume_start hr hid' htask)
      · cases ht.symm.trans (task_quiet htask ha)
    | routing errand ds =>
      obtain ⟨hcall, hds, hstart⟩ := hfits
      cases errand_of_start hcall
      obtain ⟨e', stage, rfl, hentry, hstage⟩ := hstart id rfl
      cases hr.isEntry_unique hid' hentry
      by_cases ha : action = .deliver t 0
      · subst ha
        obtain ⟨entry, he, _⟩ := isEntry_iff.1 hid'
        obtain ⟨hu, _⟩ | ⟨a, rfl, ho⟩ := start_failed he hstage htask ht
        · cases hu.symm.trans (hm'.usable hr he)
        · obtain ⟨attempt, ha, hout⟩ := Option.bind_eq_some_iff.1 ho
          obtain ⟨attempt', ha', hentry'⟩ := hds _ List.mem_cons_self
          cases ha.symm.trans ha'
          exact SpawnerRefused.step ⟨a, attempt, ha, hentry', hout⟩ _
      · have hsending : ∀ h notice, stage ≠ .sending h notice := by
          rintro h notice rfl
          obtain hs | ⟨a, hs⟩ := hstage <;> cases hs
        cases ht.symm.trans (single_quiet hsending htask ha)
    | done result => exact hold ((done_step htask rfl).symm.trans ht ▸ htask)
    | closing handles => cases hfits
    | locking event path uri =>
      obtain ⟨file, hdoc, _⟩ := hfits
      cases hdoc
    | reading event path uri =>
      obtain ⟨⟨file, hdoc, _⟩, _⟩ := hfits
      cases hdoc

/-- How a registry that has ruled out an entry goes on. -/
structure RuledOutSince (r s : Registry) (e : Nat) (id : String) : Prop where
  vacant : s.Vacant e true
  spawns : s.spawns id = r.spawns id
  /-- Whoever asks for the server is told that it is ruled out. -/
  asks {t i : Nat} : s.Asks t i e → (s.step (.deliver t i)).history = s.history ∧
    s.GoesOn t i (.error (.unusable id))
  /-- Whoever wants it started, and had not begun to before, is told nothing else. -/
  refused {t : Nat} {stage : TaskStage} : r.Unbegun t →
    s.tasks[t]? = some ⟨.start id, stage⟩ → Refused e id stage
  begins {t : Nat} : s.tasks[t]? = some ⟨.start id, .begun⟩ →
    (s.step (.resume t)).tasks[t]? = some ⟨.start id, .routing .start [⟨e, .begun⟩]⟩
  ends {t : Nat} : s.tasks[t]? = some ⟨.start id, .routing .start [⟨e, .begun⟩]⟩ →
    (s.step (.deliver t 0)).tasks[t]? = some ⟨.start id, .done (.error (.unusable id))⟩
  /-- A prewarming that had not picked its servers before does not pick this one. -/
  spared {t : Nat} {dryRun : Bool} {languages ids : List String} : r.Unbegun t →
    s.tasks[t]? = some ⟨.prewarm dryRun languages, .done (.ok (.ids ids))⟩ → id ∉ ids
  /-- Its servers accept nothing from a task that had none of them in hand. -/
  accepted {t h : Nat} {notice : Notice} {handle : Handle} : ¬ r.Holds t e →
    .accepted t h notice ∈ s.history → s.handles[h]? = some handle → handle.entry = e →
      .accepted t h notice ∈ r.history

theorem Vacant.ruledOutSince (hv : r.Vacant e true) (hr : r.Reachable)
    (hid : r.isEntry id e = true) (more : List RegistryAction) :
    r.RuledOutSince (r.run more) e id where
  vacant := (hv.ruledOut_run hr hid more).1
  spawns := (hv.ruledOut_run hr hid more).2
  asks ha := ha.ruledOut (hv.ruledOut_run hr hid more).1 (isEntry_run hid more)
  refused hu ht := by
    refine unbegun_run trivial ?_ hr hv hid hu more ht
    intro r stage action hr hv hid ht hs
    exact hs.step hr hv hid ht action
  begins ht := resume_start (hr.run more) (isEntry_run hid more) ht
  ends ht := deliver_start (hv.ruledOut_run hr hid more).1 (isEntry_run hid more) ht
  spared hu ht := by
    refine unbegun_run (p := Spares e id) trivial ?_ hr hv hid hu more ht _ rfl
    intro r stage action hr hv hid ht hs
    exact hs.step hr hv hid ht action
  accepted hn hm hh he := accepted_of_run hr hv hid hn hm hh he

/-- What leaves an entry without a server or a start that can be tried again. -/
inductive Leaves (r : Registry) (e : Nat) : RegistryAction → Prop
  | failed {a : Nat} {error : ServerError} (hu : r.UnderWay e a) (he : error.isRetryable = true) :
    Leaves r e (.spawned a (.failed error))
  | timedOut {a : Nat} (hu : r.UnderWay e a) : Leaves r e (.spawned a .timedOut)
  | exitedEarly {a : Nat} (hu : r.UnderWay e a) : Leaves r e (.spawned a (.running true))
  | exited {h : Nat} (hi : r.Installed e h) : Leaves r e (.exit h)
  | shutDown {t : Nat} (ht : r.tasks[t]? = some ⟨.shutdownAll, .begun⟩) : Leaves r e (.resume t)

theorem Leaves.vacant (hl : r.Leaves e action) (hr : r.Reachable) (hm : r.Mendable e)
    (hid : r.isEntry id e = true) : (r.step action).Vacant e false := by
  cases hl with
  | @failed a error hu he =>
    have hv := hu.spawned_failed error
    rw [he] at hv
    exact hv
  | timedOut hu => exact hu.spawned_timedOut
  | exitedEarly hu => exact hu.spawned_exited hr
  | exited hi => exact hi.exit hr
  | shutDown ht =>
    obtain ⟨entry, he, _⟩ := isEntry_iff.1 hid
    have hv := vacant_shutdownAll ht he
    rwa [hm.usable hr he] at hv

/-- A delivery has the server of an entry started, and waits for it. -/
def StartsAnew (r : Registry) (t i e : Nat) : Prop :=
  (r.step (.deliver t i)).history = .spawning e :: r.history ∧
    (r.step (.deliver t i)).UnderWay e r.attempts.length ∧
    (r.step (.deliver t i)).Awaits t i r.attempts.length

/-- A start that fails for good rules its entry out whatever happens then: only a delivery that had
an older server in hand, one that is being shut down, can still reach that. As long as the failures
of an entry can all be mended the registry tells nobody that it is ruled out, and whoever asks for
its server when there is none has that started again. -/
theorem unusable_for_good (hr : r.Reachable) (hid : r.isEntry id e = true) :
    (∀ a error more, r.UnderWay e a → error.isRetryable = false →
      (r.step (.spawned a (.failed error))).RuledOutSince
        ((r.step (.spawned a (.failed error))).run more) e id) ∧
    (r.Mendable e →
      (∀ entry, r.entries[e]? = some entry → entry.slot.unusable = false) ∧
      (∀ (t : Nat) (id' : String),
        r.tasks[t]? = some ⟨.start id, .done (.error (.unusable id'))⟩ → r.SpawnerRefused e id') ∧
      ∀ action more t i, r.Leaves e action →
        ((r.step action).run more).spawns id = (r.step action).spawns id →
          ((r.step action).run more).Asks t i e → ((r.step action).run more).StartsAnew t i e) := by
  have hid' (action : RegistryAction) : (r.step action).isEntry id e = true :=
    isEntry_run hid [action]
  refine ⟨?_, fun hm => ⟨?_, ?_, ?_⟩⟩
  · intro a error more hu he
    have hv := hu.spawned_failed error
    rw [he] at hv
    exact hv.ruledOutSince (hr.step _) (hid' _) more
  · intro entry he
    exact hm.usable hr he
  · intro t id' ht
    exact hr.refusals hm hid ht
  · intro action more t i hl hn ha
    have hv := hl.vacant hr hm hid
    exact ha.vacant (hv.run (hr.step action) (hid' action) hn)

instance : Decidable (r.UnderWay e a) :=
  decidable_of_iff ((r.entries[e]?).any fun entry => (r.attempts[a]?).any fun attempt =>
    attempt.entry == e && attempt.generation == entry.slot.generation &&
      attempt.outcome.isNone) <| by
    unfold UnderWay
    cases r.entries[e]? with
    | none => simp
    | some entry =>
      rcases r.attempts[a]? with - | ⟨e', generation, outcome⟩
      · simp
      · simp [and_assoc]

def onePrewarming : Registry :=
  oneServer.run [.call (.prewarm false ["typescript"]), .resume 0, .deliver 0 0]

/-- The server is being started again after a shutdown, and a notification is still on its way to
the older one. -/
def oneReplaced : Registry :=
  oneStarted.run [.call (.route (.ofString "/w/a.ts") "m" .null), .resume 1, .deliver 1 0,
    .call .shutdownAll, .resume 2, .call (.start "ts"), .resume 3, .deliver 3 0]

/-- The server has been started for a caller, and a shutdown has come in between; the spawner says
that it is ruled out. -/
def oneRefused : Registry :=
  oneServer.run [.call (.start "ts"), .resume 0, .deliver 0 0, .call .shutdownAll, .resume 1,
    .spawned 0 (.failed (.unusable "ts")), .deliver 0 0]

def missing : ServerError := .spawn "tsserver" "not found"

def acceptsFrom (t h : Nat) : RegistryEvent → Bool
  | .accepted t' h' _ => t' == t && h' == h
  | _ => false

theorem exists_accepted (hm : r.history.any (acceptsFrom t h) = true) :
    ∃ notice, .accepted t h notice ∈ r.history := by
  obtain ⟨event, hm, ha⟩ := List.any_eq_true.1 hm
  cases event with
  | accepted t' h' notice =>
    simp only [acceptsFrom, Bool.and_eq_true, beq_iff_eq] at ha
    exact ⟨notice, ha.1 ▸ ha.2 ▸ hm⟩
  | _ => cases ha

/-- After a start has failed for good, a prewarming that has picked the server before still names
it, and the older server still accepts what was on its way to it. And a caller is told that a server
is ruled out which is not, where the spawner says so of a start that no longer counts. -/
theorem ruledOut_but_for :
    (missing.isRetryable = false ∧ onePrewarming.UnderWay 0 0 ∧
      ((onePrewarming.run [.spawned 0 (.failed missing), .deliver 0 0]).tasks[0]?).map (·.stage) =
        some (.done (.ok (.ids ["ts"])))) ∧
    (oneReplaced.UnderWay 0 1 ∧ ∃ notice, .accepted 1 0 notice ∈
      (oneReplaced.run [.spawned 1 (.failed missing), .sent 1 0 true]).history) ∧
    oneRefused.Mendable 0 ∧
      (oneRefused.tasks[0]?).map (·.stage) = some (.done (.error (.unusable "ts"))) := by
  refine ⟨⟨rfl, by decide +kernel, rfl⟩, ⟨by decide +kernel, ?_⟩, ?_, rfl⟩
  · exact exists_accepted (by decide +kernel)
  · intro error h
    simp [show oneRefused.history = [.shutdownAll, .spawning 0] from rfl] at h

theorem history_oneReplaced :
    oneReplaced.history = [.spawning 0, .shuttingDown 0, .shutdownAll, .spawning 0] := by
  cbv

def oneMissing : Registry := oneReplaced.step (.spawned 1 (.failed missing))

theorem history_oneMissing : oneMissing.history =
    [.startFailed 0 missing, .spawning 0, .shuttingDown 0, .shutdownAll, .spawning 0] := by
  cbv

/-- A caller, a prewarming and a notification come after that, and what was on its way to the older
server arrives. -/
def oneMissed : Registry :=
  oneMissing.run [.call (.start "ts"), .resume 4, .call (.prewarm false ["typescript"]), .resume 5,
    .call (.route (.ofString "/w/a.ts") "m" .null), .resume 6, .deliver 6 0, .sent 1 0 true]

theorem tasks_oneMissed :
    oneMissed.tasks[4]? = some ⟨.start "ts", .routing .start [⟨0, .begun⟩]⟩ ∧
      oneMissed.tasks[5]? = some ⟨.prewarm false ["typescript"], .done (.ok (.ids []))⟩ := by
  constructor <;> cbv

/-- The caller is told so, the prewarming does not name the server, and of the notifications only
that which was on its way is accepted. Had the start only taken too long, the server would be
started again. -/
theorem unusable_for_good_replaced :
    ((∃ stage, oneMissed.tasks[4]? = some ⟨.start "ts", stage⟩ ∧ Refused 0 "ts" stage) ∧
      ((oneMissed.step (.deliver 4 0)).tasks[4]?).map (·.stage) =
        some (.done (.error (.unusable "ts"))) ∧
      (∃ ids, oneMissed.tasks[5]? = some ⟨.prewarm false ["typescript"], .done (.ok (.ids ids))⟩ ∧
        "ts" ∉ ids) ∧
      (∃ notice, .accepted 1 0 notice ∈ oneMissed.history) ∧
      ∀ h notice handle, .accepted 6 h notice ∈ oneMissed.history →
        oneMissed.handles[h]? = some handle → handle.entry ≠ 0) ∧
    ((oneReplaced.step (.spawned 1 .timedOut)).run
      [.call (.start "ts"), .resume 4]).StartsAnew 4 0 0 := by
  have hr : oneReplaced.Reachable := (reachable_oneServer _).run _
  have hu : oneReplaced.UnderWay 0 1 := by decide +kernel
  obtain ⟨hout, hmend⟩ := unusable_for_good hr (by cbv : oneReplaced.isEntry "ts" 0 = true)
  constructor
  · have hs : oneMissing.RuledOutSince oneMissed 0 "ts" := hout 1 missing _ hu rfl
    have hlength : oneMissing.tasks.length = 4 := by decide +kernel
    have hunbegun (t : Nat) (ht : 4 ≤ t) : oneMissing.Unbegun t := fun task h => by
      rw [List.getElem?_eq_none (hlength ▸ ht)] at h
      cases h
    obtain ⟨hcaller, hwarm⟩ := tasks_oneMissed
    have hrefused := hs.refused (hunbegun 4 (Nat.le_refl 4)) hcaller
    have hspared := hs.spared (hunbegun 5 (Nat.le_succ 4)) hwarm
    refine ⟨⟨_, hcaller, hrefused⟩, ?_, ⟨_, hwarm, hspared⟩,
      exists_accepted (by decide +kernel), ?_⟩
    · rw [hs.ends hcaller]
      rfl
    intro h notice handle hm hh he
    have hnew : ¬ oneMissing.Holds 6 0 := by
      rintro ⟨call, errand, ds, d, ht, -⟩
      rw [List.getElem?_eq_none (by rw [hlength]; decide)] at ht
      cases ht
    have hm' := hs.accepted hnew hm hh he
    simp [history_oneMissing] at hm'
  · have hm : oneReplaced.Mendable 0 := by
      intro error h
      simp [history_oneReplaced] at h
    obtain ⟨_, _, hanew⟩ := hmend hm
    have hcaller : ((oneReplaced.step (.spawned 1 .timedOut)).run
        [.call (.start "ts"), .resume 4]).tasks[4]? =
          some ⟨.start "ts", .routing .start [⟨0, .begun⟩]⟩ := by cbv
    have hcloses (uri : String) : Errand.start ≠ .closing uri := by
      intro h
      cases h
    exact hanew (.spawned 1 .timedOut) [.call (.start "ts"), .resume 4] 4 0 (.timedOut hu)
      (by cbv) ⟨_, _, _, hcaller, rfl, hcloses⟩

end Registry
end Switchyard
