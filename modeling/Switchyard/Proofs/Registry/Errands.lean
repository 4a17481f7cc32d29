import Switchyard.Proofs.Registry.Tasks

namespace Switchyard

namespace RegistryCall

def document? : RegistryCall → Option (DocumentEvent × Path)
  | .document event file | .watched event file => some (event, file)
  | _ => none

end RegistryCall

namespace Notice

def uri? : Notice → Option String
  | .didOpen uri _ _ _ | .didChange uri _ _ | .didClose uri => some uri
  | .other _ _ => none

end Notice

namespace Errand

def Sends (notice : Notice) : Errand → Prop
  | .start => False
  | .opening uri language text => notice = .didOpen uri language 1 text
  | .changing uri language text version =>
    notice = .didOpen uri language version text ∨ notice = .didChange uri version text
  | .closing uri => notice = .didClose uri
  | .telling method params => notice = .other method params

end Errand

namespace Registry

def isEntry (r : Registry) (id : String) (e : Nat) : Bool :=
  (r.entries[e]?).any (·.config.id == id)

/-- A call reports an event of the document at a path, and that path has a URI. -/
def Reports (r : Registry) (call : RegistryCall) (event : DocumentEvent) (path : Path)
    (uri : String) : Prop :=
  ∃ file, call.document? = some (event, file) ∧ path = r.resolve file ∧ Uri.ofPath? path = some uri

def ErrandFits (r : Registry) (call : RegistryCall) : Errand → Prop
  | .start => (∃ id, call = .start id) ∨ ∃ languages, call = .prewarm false languages
  | .opening uri _ _ => ∃ path, r.Reports call .opened path uri
  | .changing uri _ _ _ => ∃ path, r.Reports call .changed path uri
  | .closing uri => ∃ path, r.Reports call .closed path uri
  | .telling method params => ∃ file, call = .route file method params

def Serves (r : Registry) (e h : Nat) : Prop :=
  ∃ handle, r.handles[h]? = some handle ∧ handle.entry = e ∧ handle.attended = true

/-- What a delivery waits for belongs to its errand and to its entry. -/
def DeliveryFits (r : Registry) (errand : Errand) (e : Nat) : DeliveryStage → Prop
  | .starting a => ∃ attempt, r.attempts[a]? = some attempt ∧ attempt.entry = e
  | .sending h notice => errand.Sends notice ∧ r.Serves e h
  | .done (.accepted h) => r.Serves e h
  | _ => True

/-- A caller that wants a server started is told so by the one delivery it has. -/
def StartFits (r : Registry) (id : String) (ds : List Delivery) : Prop :=
  ∃ e stage, ds = [⟨e, stage⟩] ∧ r.isEntry id e = true ∧
    (stage = .begun ∨ ∃ a, stage = .starting a)

def StageFits (r : Registry) (call : RegistryCall) : TaskStage → Prop
  | .locking event path uri => r.Reports call event path uri
  | .reading event path uri => r.Reports call event path uri ∧ event ≠ .closed
  | .routing errand ds => r.ErrandFits call errand ∧
    (∀ d ∈ ds, r.DeliveryFits errand d.entry d.stage) ∧ ∀ id, call = .start id → r.StartFits id ds
  | .closing _ => call = .shutdownAll
  | _ => True

def TaskFits (r : Registry) (t : Nat) : Prop :=
  ∀ task, r.tasks[t]? = some task → r.StageFits task.call task.stage

variable {r r' : Registry} {t : Nat}

section Before

variable {call : RegistryCall} {errand : Errand} {e h : Nat}
variable (hb : Servers.Before r.servers r'.servers)

include hb

theorem reports_before {event : DocumentEvent} {path : Path} {uri : String}
    (hr : r.Reports call event path uri) : r'.Reports call event path uri := by
  obtain ⟨file, hc, rfl, hu⟩ := hr
  have hroot : r'.root = r.root := hb.root
  have hres : r'.resolve file = r.resolve file := by rw [resolve, resolve, hroot]
  exact ⟨file, hc, hres.symm, hu⟩

theorem errandFits_before (hf : r.ErrandFits call errand) : r'.ErrandFits call errand := by
  cases errand with
  | start => exact hf
  | telling method params => exact hf
  | opening uri language text =>
    obtain ⟨path, hr⟩ := hf
    exact ⟨path, reports_before hb hr⟩
  | changing uri language text version =>
    obtain ⟨path, hr⟩ := hf
    exact ⟨path, reports_before hb hr⟩
  | closing uri =>
    obtain ⟨path, hr⟩ := hf
    exact ⟨path, reports_before hb hr⟩

theorem serves_before (hs : r.Serves e h) : r'.Serves e h := by
  obtain ⟨handle, hh, he, ha⟩ := hs
  obtain ⟨handle', hh', he', _, ha'⟩ := hb.handles h handle hh
  exact ⟨handle', hh', he'.trans he, ha'.trans ha⟩

theorem deliveryFits_before {stage : DeliveryStage} (hf : r.DeliveryFits errand e stage) :
    r'.DeliveryFits errand e stage := by
  cases stage with
  | begun => trivial
  | starting a =>
    obtain ⟨attempt, ha, he⟩ := hf
    obtain ⟨attempt', ha', he', _⟩ := hb.attempts a attempt ha
    exact ⟨attempt', ha', he'.trans he⟩
  | sending h notice => exact ⟨hf.1, serves_before hb hf.2⟩
  | done outcome =>
    cases outcome with
    | accepted h => exact serves_before hb hf
    | _ => trivial

theorem isEntry_before (id : String) (e : Nat) : r'.isEntry id e = r.isEntry id e := by
  have hc (r : Registry) : r.isEntry id e = (r.servers.configs[e]?).any (·.id == id) := by
    simp only [isEntry, servers, List.getElem?_map]
    cases r.entries[e]? <;> rfl
  rw [hc, hc, hb.configs]

theorem stageFits_before {stage : TaskStage} (hf : r.StageFits call stage) :
    r'.StageFits call stage := by
  cases stage with
  | begun => trivial
  | done result => trivial
  | closing handles => exact hf
  | locking event path uri => exact reports_before hb hf
  | reading event path uri => exact ⟨reports_before hb hf.1, hf.2⟩
  | routing errand ds =>
    obtain ⟨he, hd, hs⟩ := hf
    refine ⟨errandFits_before hb he, fun d hm => deliveryFits_before hb (hd d hm), ?_⟩
    intro id hc
    obtain ⟨e, stage, rfl, hid, hst⟩ := hs id hc
    exact ⟨e, stage, rfl, (isEntry_before hb id e).trans hid, hst⟩

end Before

theorem before_of_eq (h : r'.servers = r.servers) : Servers.Before r.servers r'.servers := by
  rw [h]
  exact .refl _

theorem before_setStage (r : Registry) (t : Nat) (stage : TaskStage) :
    Servers.Before r.servers (r.setStage t stage).servers :=
  ⟨rfl, rfl, .refl .refl _, .refl .refl _, .refl .refl _⟩

theorem getElem?_setStage {stage : TaskStage} {task : Task}
    (ht : (r.setStage t stage).tasks[t]? = some task) :
    ∃ old, r.tasks[t]? = some old ∧ task = { old with stage } := by
  simp only [setStage, List.getElem?_modify_eq] at ht
  obtain ⟨old, hold, rfl⟩ := Option.map_eq_some_iff.1 ht
  exact ⟨old, hold, rfl⟩

theorem taskFits_setStage {stage : TaskStage}
    (h : ∀ task, r.tasks[t]? = some task → r.StageFits task.call stage) :
    (r.setStage t stage).TaskFits t := by
  intro task ht
  obtain ⟨old, hold, rfl⟩ := getElem?_setStage ht
  exact stageFits_before (before_setStage r t stage) (h old hold)

theorem taskFits_route {errand : Errand} {ds : List Delivery}
    (h : ∀ task, r.tasks[t]? = some task → r.ErrandFits task.call errand ∧
      (∀ d ∈ ds, r.DeliveryFits errand d.entry d.stage) ∧
      (ds.all (·.stage.isDone) = false → ∀ id, task.call = .start id → r.StartFits id ds)) :
    ((r.setStage t (.routing errand ds)).finish t).TaskFits t := by
  unfold finish
  split
  · rename_i call errand' ds' ht
    obtain ⟨old, hold, heq⟩ := getElem?_setStage ht
    cases heq
    split
    · exact taskFits_setStage fun _ _ => trivial
    · rename_i hn
      intro task ht'
      cases ht.symm.trans ht'
      obtain ⟨he, hd, hs⟩ := h old hold
      exact stageFits_before (before_setStage r t _) ⟨he, hd, hs (eq_false_of_ne_true hn)⟩
  · rename_i hn
    intro task ht
    obtain ⟨old, hold, rfl⟩ := getElem?_setStage ht
    exact absurd ht (hn _ _ _)

theorem begun_fits {errand : Errand} {es : List Nat} {d : Delivery}
    (hm : d ∈ es.map fun e => (⟨e, .begun⟩ : Delivery)) :
    r.DeliveryFits errand d.entry d.stage := by
  obtain ⟨e, _, rfl⟩ := List.mem_map.1 hm
  trivial

theorem Reports.not_start {call : RegistryCall} {event : DocumentEvent} {path : Path}
    {uri id : String} (h : r.Reports call event path uri) : call ≠ .start id := by
  rintro rfl
  obtain ⟨file, hc, _⟩ := h
  cases hc

theorem taskFits_holdLock {event : DocumentEvent} {path : Path} {uri : String}
    (h : ∀ task, r.tasks[t]? = some task → r.Reports task.call event path uri) :
    (r.holdLock t event path uri).TaskFits t := by
  cases event with
  | closed =>
    apply taskFits_route (r := r.dropVersion uri)
    intro task ht
    exact ⟨⟨path, h task ht⟩, fun d hm => begun_fits hm,
      fun _ id hc => absurd hc (h task ht).not_start⟩
  | opened => exact taskFits_setStage fun task ht => ⟨h task ht, nofun⟩
  | changed => exact taskFits_setStage fun task ht => ⟨h task ht, nofun⟩

theorem taskFits_beginDocument {event : DocumentEvent} {file : Path}
    (h : ∀ task, r.tasks[t]? = some task → task.call.document? = some (event, file)) :
    (r.beginDocument t event file).TaskFits t := by
  unfold beginDocument
  dsimp only
  split
  · exact taskFits_setStage fun _ _ => trivial
  · rename_i uri hu
    have hr (task : Task) (ht : r.tasks[t]? = some task) :
        (r.requestLock t uri).Reports task.call event (r.resolve file) uri :=
      ⟨file, h task ht, rfl, hu⟩
    split
    · exact taskFits_holdLock (r := r.requestLock t uri) hr
    · exact taskFits_setStage (r := r.requestLock t uri) hr

theorem isEntry_of_findIdx? {id : String} {e : Nat}
    (h : r.entries.findIdx? (·.config.id == id) = some e) : r.isEntry id e = true := by
  obtain ⟨hl, hid, _⟩ := List.findIdx?_eq_some_iff_getElem.1 h
  unfold isEntry
  rw [List.getElem?_eq_getElem hl]
  exact hid

theorem taskFits_begin {call : RegistryCall} (ht : r.tasks[t]? = some ⟨call, .begun⟩) :
    (r.begin t call).TaskFits t := by
  have hcall (task : Task) (h : r.tasks[t]? = some task) : task.call = call := by
    cases ht.symm.trans h
    rfl
  cases call with
  | document event file =>
    exact taskFits_beginDocument fun task h => by rw [hcall task h]; rfl
  | watched event file =>
    simp only [begin]
    split
    · exact taskFits_beginDocument fun task h => by rw [hcall task h]; rfl
    · split <;> exact taskFits_setStage fun _ _ => trivial
  | start id =>
    simp only [begin]
    split
    · exact taskFits_setStage fun _ _ => trivial
    · rename_i e he
      apply taskFits_setStage
      intro task h
      rw [hcall task h]
      refine ⟨.inl ⟨id, rfl⟩, fun d hm => begun_fits hm, ?_⟩
      rintro _ ⟨⟩
      exact ⟨e, .begun, rfl, isEntry_of_findIdx? he, .inl rfl⟩
  | route file method params =>
    apply taskFits_route
    intro task h
    rw [hcall task h]
    refine ⟨⟨file, rfl⟩, fun d hm => begun_fits hm, ?_⟩
    intro _ id heq
    cases heq
  | prewarm dryRun languages =>
    simp only [begin]
    split
    · exact taskFits_setStage fun _ _ => trivial
    · rename_i hd
      apply taskFits_route
      intro task h
      rw [hcall task h, eq_false_of_ne_true hd]
      refine ⟨.inr ⟨languages, rfl⟩, fun d hm => begun_fits hm, ?_⟩
      intro _ id heq
      cases heq
  | shutdownAll =>
    have hr : (r.takeAll).1.tasks = r.tasks := by rw [takeAll_eq]
    apply taskFits_setStage (r := (r.takeAll).1)
    intro task h
    rw [hr] at h
    rw [hcall task h]
    split
    · trivial
    · rfl

theorem taskFits_resume (hf : r.TaskFits t) : (r.resume t).TaskFits t := by
  unfold resume
  split
  · rename_i ht
    exact taskFits_begin ht
  · rename_i event path uri ht
    split
    · apply taskFits_holdLock
      intro task h
      have hl := hf task h
      cases ht.symm.trans h
      exact hl
    · exact hf
  · exact hf

theorem taskFits_read (hf : r.TaskFits t) (result : Except FileError String) :
    (r.read t result).TaskFits t := by
  unfold read
  split
  · rename_i call event path uri ht
    obtain ⟨hr, hne⟩ := hf _ ht
    cases result with
    | error e => exact taskFits_setStage fun _ _ => trivial
    | ok text =>
      apply taskFits_route (r := r.setVersion uri _)
      intro task h
      cases ht.symm.trans h
      refine ⟨?_, fun d hm => begun_fits hm, fun _ id hc => absurd hc hr.not_start⟩
      cases event with
      | opened => exact ⟨path, hr⟩
      | changed => exact ⟨path, hr⟩
      | closed => exact absurd rfl hne
  · exact hf

theorem taskFits_close (hf : r.TaskFits t) (h : Nat) : (r.close t h).TaskFits t := by
  unfold close
  split
  · rename_i call handles ht
    split
    · apply taskFits_setStage
      intro task h'
      rw [tasks_dispose] at h'
      have hc := hf task h'
      cases ht.symm.trans h'
      split
      · trivial
      · exact hc
    · exact hf
  · exact hf

theorem arrive_fits {errand : Errand} {e h : Nat} (entry : Entry) (hs : r.Serves e h) :
    (r.arrive errand e entry h).1.DeliveryFits errand e (r.arrive errand e entry h).2 := by
  have hs' : (r.arrive errand e entry h).1.Serves e h :=
    serves_before (before_of_eq (servers_arrive r errand e entry h)) hs
  cases errand with
  | start => exact hs'
  | opening uri language text => exact ⟨rfl, hs'⟩
  | changing uri language text version =>
    simp only [arrive] at hs' ⊢
    split
    · rename_i ho
      rw [if_pos ho] at hs'
      exact ⟨.inr rfl, hs'⟩
    · rename_i ho
      rw [if_neg ho] at hs'
      exact ⟨.inl rfl, hs'⟩
  | closing uri =>
    simp only [arrive] at hs' ⊢
    split
    · rename_i ho
      rw [if_pos ho] at hs'
      exact ⟨rfl, hs'⟩
    · rename_i ho
      rw [if_neg ho] at hs'
      exact hs'
  | telling method params => exact ⟨rfl, hs'⟩

theorem serves_of_started {e h : Nat} {entry : Entry} (hi : r.servers.Sound)
    (he : r.entries[e]? = some entry) (hs : entry.slot.state = .started h) : r.Serves e h :=
  ⟨_, hi.started (slot_of_entry he) hs, rfl, rfl⟩

theorem seek_fits {errand : Errand} {e : Nat} {entry : Entry} (hi : r.servers.Sound)
    (he : r.entries[e]? = some entry) :
    (r.seek errand e entry).1.DeliveryFits errand e (r.seek errand e entry).2 := by
  unfold seek
  split
  · split
    · rename_i h hs
      refine arrive_fits entry (serves_of_started hi he ?_)
      exact Slot.handle?_eq_some.1 hs
    · trivial
  · split
    · trivial
    · split
      · rename_i h hs
        exact arrive_fits entry (serves_of_started hi he hs)
      · rename_i a ha
        exact ⟨_, hi.starting (slot_of_entry he) ha, rfl⟩
      · exact ⟨_, List.getElem?_concat_length, rfl⟩

theorem advance_fits {errand : Errand} {d : Delivery} {entry : Entry} (hi : r.servers.Sound)
    (he : r.entries[d.entry]? = some entry) (hf : r.DeliveryFits errand d.entry d.stage) :
    (r.advance errand d entry).1.DeliveryFits errand d.entry (r.advance errand d entry).2 := by
  obtain ⟨e, stage⟩ := d
  cases stage with
  | begun => exact seek_fits hi he
  | starting a =>
    obtain ⟨attempt, ha, hae⟩ := hf
    simp only [advance, ha, Option.bind_some]
    split
    · exact ⟨attempt, ha, hae⟩
    · rename_i h ho
      obtain ⟨handle, hh, hhe, hat⟩ := hi.outcome ha ho
      exact arrive_fits entry ⟨handle, hh, hhe.trans hae, hat⟩
    · trivial
  | sending h notice => exact hf
  | done outcome => exact hf

theorem mem_modify_stage {ds : List Delivery} {i : Nat} {stage : DeliveryStage} {d : Delivery}
    (hm : d ∈ ds.modify i ({ · with stage })) :
    d ∈ ds ∨ ∃ old, ds[i]? = some old ∧ d = { old with stage } := by
  obtain ⟨j, hj⟩ := List.mem_iff_getElem?.1 hm
  rw [List.getElem?_modify] at hj
  obtain ⟨old, hold, heq⟩ := Option.map_eq_some_iff.1 hj
  split at heq
  · rename_i hij
    subst hij
    exact .inr ⟨old, hold, heq.symm⟩
  · subst heq
    exact .inl (List.mem_of_getElem? hold)

theorem taskFits_setDelivery {call : RegistryCall} {errand : Errand} {ds : List Delivery}
    {i : Nat} {delivery : Delivery} {stage : DeliveryStage}
    (hb : Servers.Before r.servers r'.servers) (ht : r'.tasks = r.tasks) (hf : r.TaskFits t)
    (hr : r.tasks[t]? = some ⟨call, .routing errand ds⟩)
    (hd : ds[i]? = some delivery) (hs : r'.DeliveryFits errand delivery.entry stage)
    (hstart : ∀ id, call = .start id → stage.isDone = false →
      stage = .begun ∨ ∃ a, stage = .starting a) :
    (r'.setDelivery t errand ds i stage).TaskFits t := by
  apply taskFits_route
  intro task h
  rw [ht] at h
  cases hr.symm.trans h
  obtain ⟨he, hds, hst⟩ := hf _ hr
  refine ⟨errandFits_before hb he, ?_, ?_⟩
  · intro d hm
    obtain hm | ⟨old, hold, rfl⟩ := mem_modify_stage hm
    · exact deliveryFits_before hb (hds d hm)
    · cases hd.symm.trans hold
      exact hs
  · intro hn id hc
    obtain ⟨e, old, rfl, hid, _⟩ := hst id hc
    cases i with
    | zero =>
      cases hd
      refine ⟨e, stage, rfl, (isEntry_before hb id e).trans hid, hstart id hc ?_⟩
      simpa using hn
    | succ i => cases hd

theorem advance_start {d : Delivery} (entry : Entry)
    (hd : d.stage = .begun ∨ ∃ a, d.stage = .starting a)
    (hn : (r.advance .start d entry).2.isDone = false) :
    ∃ a, (r.advance .start d entry).2 = .starting a := by
  obtain ⟨e, stage⟩ := d
  obtain rfl | ⟨a, rfl⟩ := hd
  · simp only [advance, seek] at hn ⊢
    split
    · rename_i hu
      rw [if_pos hu] at hn
      cases hn
    · rename_i hu
      rw [if_neg hu] at hn
      split
      · rename_i hs
        rw [hs] at hn
        cases hn
      · exact ⟨_, rfl⟩
      · exact ⟨_, rfl⟩
  · simp only [advance] at hn ⊢
    split
    · exact ⟨a, rfl⟩
    · rename_i ho
      rw [ho] at hn
      cases hn
    · rename_i ho
      rw [ho] at hn
      cases hn

theorem errand_of_start {id : String} {errand : Errand} (hf : r.ErrandFits (.start id) errand) :
    errand = .start := by
  cases errand with
  | start => rfl
  | telling method params =>
    obtain ⟨file, h⟩ := hf
    cases h
  | _ =>
    obtain ⟨path, h⟩ := hf
    exact absurd rfl h.not_start

theorem taskFits_deliver (hi : r.servers.Sound) (hf : r.TaskFits t) (i : Nat) :
    (r.deliver t i).TaskFits t := by
  obtain h | ⟨call, errand, ds, delivery, entry, ht, hd, he, h⟩ := deliver_cases r t i
  · rwa [h]
  rw [h]
  obtain ⟨hcall, hds, hst⟩ := hf _ ht
  have hb := (Servers.Changes.steps (servers_advance errand he).to_reflTransGen).before
  have hfit := advance_fits hi he (hds delivery (List.mem_of_getElem? hd))
  apply taskFits_setDelivery hb (tasks_advance r errand delivery entry) hf ht hd hfit
  intro id hc hn
  obtain ⟨e, stage, rfl, _, hstage⟩ := hst id hc
  cases i with
  | zero =>
    cases hd
    subst hc
    cases errand_of_start hcall
    exact .inr (advance_start entry hstage hn)
  | succ i => cases hd

theorem taskFits_endSending (hf : r.TaskFits t) (i : Nat) (accepted : Bool) :
    (r.endSending t i accepted).TaskFits t := by
  obtain heq | ⟨call, errand, ds, e, h, notice, ht, hd, heq⟩ := endSending_cases r t i accepted
  · rwa [heq]
  rw [heq]
  obtain ⟨hcall, hds, hst⟩ := hf _ ht
  obtain ⟨_, hs⟩ := hds _ (List.mem_of_getElem? hd)
  have hb := before_of_eq (servers_sent r t e h notice accepted)
  have hfit : (r.sent t e h notice accepted).1.DeliveryFits errand e
      (r.sent t e h notice accepted).2 ∧ (r.sent t e h notice accepted).2.isDone = true := by
    unfold sent
    dsimp only
    split
    · exact ⟨hs, rfl⟩
    · cases notice <;> exact ⟨trivial, rfl⟩
  apply taskFits_setDelivery hb (tasks_sent r t e h notice accepted) hf ht hd hfit.1
  intro id _ hn
  cases hfit.2.symm.trans hn

theorem taskFits_step (hi : r.servers.Sound) (hf : ∀ t, r.TaskFits t) (action : RegistryAction)
    (t : Nat) : (r.step action).TaskFits t := by
  by_cases ht : action.task? = some t
  · cases action with
    | resume u =>
      cases ht
      exact taskFits_resume (hf t)
    | read u result =>
      cases ht
      exact taskFits_read (hf t) result
    | deliver u d =>
      cases ht
      exact taskFits_deliver hi (hf t) d
    | sent u d accepted =>
      cases ht
      exact taskFits_endSending (hf t) d accepted
    | closed u h =>
      cases ht
      exact taskFits_close (hf t) h
    | _ => cases ht
  · intro task hnew
    obtain hold | hbegun := task_of_step hnew ht
    · exact stageFits_before (servers_steps r action).before (hf t task hold)
    · rw [hbegun]
      trivial

theorem Reachable.taskFits (hr : r.Reachable) (t : Nat) : r.TaskFits t := by
  refine hr.induction (p := fun r => ∀ t, r.TaskFits t) ?_ ?_ t
  · intro root configs watch commandExists handshakeMs t task ht
    cases ht
  · intro r action hr hf
    exact taskFits_step hr.sound hf action

end Registry
end Switchyard
