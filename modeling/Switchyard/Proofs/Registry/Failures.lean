import Switchyard.Proofs.Registry.Counts
import Switchyard.Proofs.Registry.Serial

namespace Switchyard

/-- A task on a document at this stage has not given the document a version or told a server of
it. -/
def TaskStage.Fruitless : TaskStage → Prop
  | .begun | .locking _ _ _ | .reading _ _ _ | .done (.error _) => True
  | .routing _ _ | .closing _ | .done (.ok _) => False

namespace Registry

variable {r r' r'' : Registry} {t : Nat} {call : RegistryCall} {event : DocumentEvent}
variable {file : Path} {stage stage' : TaskStage} {action : RegistryAction}

/-- Nothing changes but how far one task is and whether it wants a lock. -/
structure OnlyTask (t : Nat) (r r' : Registry) : Prop where
  rest : ∃ tasks locks, r' = { r with tasks, locks }
  others : ∀ u, u ≠ t → r'.tasks[u]? = r.tasks[u]?
  queues : ∀ uri, (r'.locks.wanting uri).filter (· != t) = (r.locks.wanting uri).filter (· != t)

namespace OnlyTask

theorem refl (t : Nat) (r : Registry) : OnlyTask t r r :=
  ⟨⟨r.tasks, r.locks, rfl⟩, fun _ _ => rfl, fun _ => rfl⟩

theorem trans (h : OnlyTask t r r') (h' : OnlyTask t r' r'') : OnlyTask t r r'' where
  rest := by
    obtain ⟨_, _, rfl⟩ := h.rest
    obtain ⟨tasks, locks, rfl⟩ := h'.rest
    exact ⟨tasks, locks, rfl⟩
  others u hu := (h'.others u hu).trans (h.others u hu)
  queues uri := (h'.queues uri).trans (h.queues uri)

theorem setStage (t : Nat) (r : Registry) (stage : TaskStage) :
    OnlyTask t r (r.setStage t stage) where
  rest := ⟨_, _, rfl⟩
  others _ hu := List.getElem?_modify_ne _ _ hu.symm
  queues _ := rfl

theorem requestLock (hw : r.locks.WellFormed) (t : Nat) (uri : String) :
    OnlyTask t r (r.requestLock t uri) where
  rest := ⟨_, _, rfl⟩
  others _ _ := rfl
  queues uri' := by
    rw [Registry.requestLock, hw.wanting_request]
    split
    · rename_i h
      simp [h]
    · rfl

theorem releaseLock (r : Registry) (t : Nat) : OnlyTask t r (r.releaseLock t) where
  rest := ⟨_, _, rfl⟩
  others _ _ := rfl
  queues uri := by
    rw [Registry.releaseLock, DocumentLocks.wanting_release]
    split
    · rename_i h
      obtain ⟨queue, hq⟩ := List.head?_eq_some_iff.1 h
      simp [hq]
    · rfl

theorem dropLock (r : Registry) (t : Nat) (uri : String) : OnlyTask t r (r.dropLock uri) where
  rest := ⟨_, _, rfl⟩
  others _ _ := rfl
  queues uri' := by rw [Registry.dropLock, DocumentLocks.wanting_drop]

/-- The tasks that want a document's lock are as they were, where this one is not among them. -/
theorem wanting_eq {uri : String} (h : OnlyTask t r r') (ht : t ∉ r.locks.wanting uri)
    (ht' : t ∉ r'.locks.wanting uri) : r'.locks.wanting uri = r.locks.wanting uri := by
  have hne {queue : List Nat} (hm : t ∉ queue) : queue.filter (· != t) = queue :=
    List.filter_eq_self.2 fun u hu => bne_iff_ne.2 fun heq => hm (heq ▸ hu)
  rw [← hne ht', h.queues uri, hne ht]

end OnlyTask

/-- What a task may do that reports an event of a document and comes to nothing. -/
inductive Tries (r : Registry) (t : Nat) (event : DocumentEvent) (file : Path) :
    RegistryAction → TaskStage → Registry → Prop
  | rest (action : RegistryAction) (stage : TaskStage) : r.Tries t event file action stage r
  | refuse (hu : Uri.ofPath? (r.resolve file) = none) :
    r.Tries t event file (.resume t) .begun
      (r.setStage t (.done (.error (.read (r.resolve file) (Uri.noUriMessage (r.resolve file))))))
  | wait {uri : String} (hu : Uri.ofPath? (r.resolve file) = some uri) :
    r.Tries t event file (.resume t) .begun
      ((r.requestLock t uri).setStage t (.locking event (r.resolve file) uri))
  | enter {uri : String} (hu : Uri.ofPath? (r.resolve file) = some uri) :
    r.Tries t event file (.resume t) .begun
      ((r.requestLock t uri).setStage t (.reading event (r.resolve file) uri))
  | take {uri : String} :
    r.Tries t event file (.resume t) (.locking event (r.resolve file) uri)
      (r.setStage t (.reading event (r.resolve file) uri))
  | giveUp {uri : String} (cause : FileError) :
    r.Tries t event file (.read t (.error cause)) (.reading event (r.resolve file) uri)
      (((r.releaseLock t).dropLock uri).setStage t
        (.done (.error (.read (r.resolve file) cause.message))))

theorem Tries.onlyTask (h : r.Tries t event file action stage r') (hw : r.locks.WellFormed) :
    OnlyTask t r r' := by
  cases h with
  | rest => exact .refl t r
  | refuse => exact .setStage t r _
  | wait => exact (OnlyTask.requestLock hw t _).trans (.setStage t _ _)
  | enter => exact (OnlyTask.requestLock hw t _).trans (.setStage t _ _)
  | take => exact .setStage t r _
  | giveUp =>
    exact ((OnlyTask.releaseLock r t).trans (.dropLock _ t _)).trans (.setStage t _ _)

theorem Tries.error {error : ServerError} (h : r.Tries t event file action stage r')
    (ht : r.tasks[t]? = some ⟨call, stage⟩)
    (ht' : r'.tasks[t]? = some ⟨call, .done (.error error)⟩) :
    stage = .done (.error error) ∨
      (Uri.ofPath? (r.resolve file) = none ∧
        error = .read (r.resolve file) (Uri.noUriMessage (r.resolve file))) ∨
      ∃ cause, action = .read t (.error cause) ∧ error = .read (r.resolve file) cause.message := by
  cases h with
  | rest =>
    cases ht.symm.trans ht'
    exact .inl rfl
  | refuse hu =>
    cases ht'.symm.trans (task_setStage ht _)
    exact .inr (.inl ⟨hu, rfl⟩)
  | @wait uri =>
    have ht : (r.requestLock t uri).tasks[t]? = some ⟨call, .begun⟩ := ht
    cases ht'.symm.trans (task_setStage ht _)
  | @enter uri =>
    have ht : (r.requestLock t uri).tasks[t]? = some ⟨call, .begun⟩ := ht
    cases ht'.symm.trans (task_setStage ht _)
  | take => cases ht'.symm.trans (task_setStage ht _)
  | @giveUp uri cause =>
    have ht : ((r.releaseLock t).dropLock uri).tasks[t]? = _ := ht
    cases ht'.symm.trans (task_setStage ht _)
    exact .inr (.inr ⟨cause, rfl, rfl⟩)

theorem not_fruitless_finish {errand : Errand} {ds : List Delivery}
    (hdoc : call.document? = some (event, file))
    (ht : r.tasks[t]? = some ⟨call, .routing errand ds⟩)
    (ht' : (r.finish t).tasks[t]? = some ⟨call, stage⟩) : ¬ stage.Fruitless := by
  obtain h | h := task_finish ht
  · cases ht'.symm.trans h
    exact id
  · rw [result_document (by rw [hdoc]; rfl)] at h
    cases ht'.symm.trans h
    exact id

theorem not_fruitless_route {es : List Nat} {errand : Errand}
    (hdoc : call.document? = some (event, file)) (ht : r.tasks[t]? = some ⟨call, stage⟩)
    (ht' : ((r.routeTo t errand es).finish t).tasks[t]? = some ⟨call, stage'⟩) :
    ¬ stage'.Fruitless :=
  not_fruitless_finish hdoc (task_setStage ht _) ht'

theorem not_fruitless_close {path : Path} {uri : String}
    (hdoc : call.document? = some (event, file)) (ht : r.tasks[t]? = some ⟨call, stage⟩)
    (ht' : (r.holdLock t .closed path uri).tasks[t]? = some ⟨call, stage'⟩) :
    ¬ stage'.Fruitless :=
  not_fruitless_route (r := r.dropVersion uri) hdoc ht ht'

theorem tries_beginDocument (hdoc : call.document? = some (event, file))
    (ht : r.tasks[t]? = some ⟨call, .begun⟩)
    (ht' : (r.beginDocument t event file).tasks[t]? = some ⟨call, stage'⟩)
    (hs : stage'.Fruitless) :
    r.Tries t event file (.resume t) .begun (r.beginDocument t event file) := by
  unfold beginDocument at ht' ⊢
  dsimp only at ht' ⊢
  split
  · rename_i hu
    exact .refuse hu
  · rename_i uri hu
    simp only [hu] at ht'
    split
    · rename_i hl
      rw [if_pos hl] at ht'
      cases event with
      | closed => exact absurd hs (not_fruitless_close (r := r.requestLock t uri) hdoc ht ht')
      | _ => exact .enter hu
    · exact .wait hu

theorem setStage_same (ht : r.tasks[t]? = some ⟨call, stage⟩) : r.setStage t stage = r := by
  have hsame : r.tasks.modify t ({ · with stage }) = r.tasks := by
    refine List.ext_getElem? fun u => ?_
    rw [List.getElem?_modify]
    split
    · rename_i hu
      rw [← hu, ht]
      rfl
    · exact Option.map_id'
  rw [setStage, hsame]

theorem tries_begin (hdoc : call.document? = some (event, file))
    (ht : r.tasks[t]? = some ⟨call, .begun⟩)
    (ht' : (r.begin t call).tasks[t]? = some ⟨call, stage'⟩) (hs : stage'.Fruitless) :
    r.Tries t event file (.resume t) .begun (r.begin t call) := by
  cases call with
  | document event' file' =>
    cases hdoc
    exact tries_beginDocument rfl ht ht' hs
  | watched event' file' =>
    cases hdoc
    rw [begin] at ht' ⊢
    split
    · rename_i hw
      rw [if_pos hw] at ht'
      exact tries_beginDocument rfl ht ht' hs
    · rename_i hw
      rw [if_neg hw] at ht'
      split
      · rw [setStage_same ht]
        exact .rest _ _
      · rename_i hf
        rw [if_neg hf] at ht'
        cases ht'.symm.trans (task_setStage ht _)
        exact hs.elim
  | _ => cases hdoc

/-- A step after which a task on a document has not come to anything is one of those listed. -/
theorem tries_step (hr : r.Reachable) (hdoc : call.document? = some (event, file))
    (ht : r.tasks[t]? = some ⟨call, stage⟩) (ha : action.task? = some t)
    (ht' : (r.step action).tasks[t]? = some ⟨call, stage'⟩) (hs : stage'.Fruitless) :
    stage.Fruitless ∧ r.Tries t event file action stage (r.step action) := by
  by_cases hh : stage.Heeds t action
  · have hfit := hr.taskFits t _ ht
    cases stage with
    | begun =>
      cases hh
      rw [step, resume, ht] at ht' ⊢
      exact ⟨trivial, tries_begin hdoc ht ht' hs⟩
    | locking event' path uri =>
      cases hh
      obtain ⟨file', hc, rfl, -⟩ := hfit
      cases hdoc.symm.trans hc
      refine ⟨trivial, ?_⟩
      rw [step, resume, ht] at ht' ⊢
      dsimp only at ht' ⊢
      split
      · rename_i hl
        rw [if_pos hl] at ht'
        cases event with
        | closed => exact absurd hs (not_fruitless_close hdoc ht ht')
        | _ => exact .take
      · exact .rest _ _
    | reading event' path uri =>
      obtain ⟨result, rfl⟩ := hh
      obtain ⟨⟨file', hc, rfl, -⟩, -⟩ := hfit
      cases hdoc.symm.trans hc
      refine ⟨trivial, ?_⟩
      rw [step, read, ht] at ht' ⊢
      cases result with
      | error cause => exact .giveUp cause
      | ok text => exact absurd hs (not_fruitless_route (r := r.setVersion uri _) hdoc ht ht')
    | routing errand ds =>
      obtain h | ⟨s, i, d, new, hs', -, hstep, -⟩ := routing_step ht action
      · cases ht'.symm.trans h
        exact hs.elim
      · rw [hstep] at ht'
        exact absurd hs (not_fruitless_finish hdoc (task_setStage hs' _) ht')
    | closing handles =>
      have hcall : call = .shutdownAll := hfit
      subst hcall
      cases hdoc
    | done result => exact hh.elim
  · have hself := step_eq_self ht ha hh
    rw [hself] at ht' ⊢
    cases ht.symm.trans ht'
    exact ⟨hs, .rest _ _⟩

/-- Whoever has given a document its version, or taken it away, does not fail. -/
theorem not_fruitless_of_wrote {uri : String} {event' : DocumentEvent}
    (hdoc : call.document? = some (event, file)) (ht : r.tasks[t]? = some ⟨call, stage⟩)
    (hm : .wrote t uri event' ∈ r.turnEvents action)
    (ht' : (r.step action).tasks[t]? = some ⟨call, stage'⟩) : ¬ stage'.Fruitless := by
  have hturn {u : Nat} {event : DocumentEvent} {uri' : String}
      (hm : .wrote t uri event' ∈ TurnEvent.turn u event uri') : u = t ∧ event = .closed := by
    cases event <;> simp [TurnEvent.turn] at hm
    exact ⟨hm.1.symm, rfl⟩
  cases action with
  | resume u =>
    simp only [turnEvents] at hm
    split at hm
    · rename_i call' hu
      split at hm
      · rename_i event'' uri' hasks
        obtain hm | hm := List.mem_cons.1 hm
        · cases hm
        split at hm
        · rename_i hl
          obtain ⟨rfl, rfl⟩ := hturn hm
          cases ht.symm.trans hu
          obtain ⟨file', hc, -, hb⟩ := begin_of_asks (t := u) hasks
          rw [step, resume, ht] at ht'
          dsimp only at ht'
          rw [hb, if_pos hl] at ht'
          exact not_fruitless_close (r := r.requestLock u uri') hdoc ht ht'
        · cases hm
      · cases hm
    · rename_i hu
      split at hm
      · rename_i hl
        obtain ⟨rfl, rfl⟩ := hturn hm
        cases ht.symm.trans hu
        rw [step, resume, ht] at ht'
        dsimp only at ht'
        rw [if_pos hl] at ht'
        exact not_fruitless_close hdoc ht ht'
      · cases hm
    · cases hm
  | read u result =>
    cases result with
    | error cause => cases hm
    | ok text =>
      simp only [turnEvents] at hm
      split at hm
      · rename_i hu
        cases List.mem_singleton.1 hm
        cases ht.symm.trans hu
        rw [step, read, ht] at ht'
        exact not_fruitless_route (r := r.setVersion uri _) hdoc ht ht'
      · cases hm
  | _ => cases hm

theorem exists_task_run (ht : r.tasks[t]? = some ⟨call, stage⟩) (actions : List RegistryAction) :
    ∃ stage', (r.run actions).tasks[t]? = some ⟨call, stage'⟩ := by
  induction actions generalizing r stage with
  | nil => exact ⟨stage, ht⟩
  | cons action actions ih =>
    obtain ⟨⟨call', stage'⟩, ht', hcall⟩ := calls_step r action t _ ht
    cases hcall
    exact ih ht'

theorem fruitless_run {actions : List RegistryAction} (hr : r.Reachable)
    (hdoc : call.document? = some (event, file)) (ht : r.tasks[t]? = some ⟨call, stage⟩)
    (ht' : (r.run actions).tasks[t]? = some ⟨call, stage'⟩) (hs : stage'.Fruitless) :
    stage.Fruitless := by
  induction actions generalizing r stage with
  | nil =>
    cases ht.symm.trans ht'
    exact hs
  | cons action actions ih =>
    obtain ⟨next, hnext⟩ := exists_task_run ht [action]
    have hfruitless := ih (hr.step action) hnext ht'
    by_cases ha : action.task? = some t
    · exact (tries_step hr hdoc ht ha hnext hfruitless).1
    · cases hnext.symm.trans (task_step ht ha)
      exact hfruitless

theorem onlyTask_step {actions : List RegistryAction} (hr : r.Reachable)
    (hdoc : call.document? = some (event, file)) (ht : r.tasks[t]? = some ⟨call, stage⟩)
    (ha : action.task? = some t)
    (ht' : (r.run (action :: actions)).tasks[t]? = some ⟨call, stage'⟩) (hs : stage'.Fruitless) :
    OnlyTask t r (r.step action) := by
  obtain ⟨next, hnext⟩ := exists_task_run ht [action]
  have hfruitless := fruitless_run (hr.step action) hdoc hnext ht' hs
  exact (tries_step hr hdoc ht ha hnext hfruitless).2.onlyTask hr.turnsFit.locks

theorem onlyTask_run {actions : List RegistryAction} (hr : r.Reachable)
    (hdoc : call.document? = some (event, file)) (ht : r.tasks[t]? = some ⟨call, stage⟩)
    (hown : ∀ action ∈ actions, action.task? = some t)
    (ht' : (r.run actions).tasks[t]? = some ⟨call, stage'⟩) (hs : stage'.Fruitless) :
    OnlyTask t r (r.run actions) := by
  induction actions generalizing r stage with
  | nil => exact .refl t r
  | cons action actions ih =>
    obtain ⟨next, hnext⟩ := exists_task_run ht [action]
    have hstep := onlyTask_step hr hdoc ht (hown action List.mem_cons_self) ht' hs
    exact hstep.trans (ih (hr.step action) hnext
      (fun action' h => hown action' (List.mem_cons_of_mem action h)) ht')

theorem not_mem_wrote {actions : List RegistryAction} {uri : String} {event' : DocumentEvent}
    (hr : r.Reachable) (hdoc : call.document? = some (event, file))
    (ht : r.tasks[t]? = some ⟨call, stage⟩)
    (ht' : (r.run actions).tasks[t]? = some ⟨call, stage'⟩) (hs : stage'.Fruitless) :
    (t, event') ∉ r.wrote uri actions := by
  induction actions generalizing r stage with
  | nil => exact List.not_mem_nil
  | cons action actions ih =>
    obtain ⟨next, hnext⟩ := exists_task_run ht [action]
    intro hm
    rw [wrote, turnsOf, List.filterMap_append] at hm
    obtain hm | hm := List.mem_append.1 hm
    · obtain ⟨e, he, heq⟩ := List.mem_filterMap.1 hm
      have hwrote : .wrote t uri event' ∈ r.turnEvents action := by
        cases e with
        | wrote u uri' event'' =>
          simp only [TurnEvent.wrote?] at heq
          split at heq
          · rename_i huri
            cases heq
            rwa [← huri]
          · cases heq
        | _ => cases heq
      exact not_fruitless_of_wrote hdoc ht hwrote hnext
        (fruitless_run (hr.step action) hdoc hnext ht' hs)
    · exact ih (hr.step action) hnext ht' hm

theorem error_run {actions : List RegistryAction} {error : ServerError} (hr : r.Reachable)
    (hdoc : call.document? = some (event, file)) (ht : r.tasks[t]? = some ⟨call, stage⟩)
    (ht' : (r.run actions).tasks[t]? = some ⟨call, .done (.error error)⟩) :
    stage = .done (.error error) ∨
      (Uri.ofPath? (r.resolve file) = none ∧
        error = .read (r.resolve file) (Uri.noUriMessage (r.resolve file))) ∨
      ∃ cause, .read t (.error cause) ∈ actions ∧ error = .read (r.resolve file) cause.message := by
  induction actions generalizing r stage with
  | nil =>
    cases ht.symm.trans ht'
    exact .inl rfl
  | cons action actions ih =>
    obtain ⟨next, hnext⟩ := exists_task_run ht [action]
    have hroot : (r.step action).root = r.root := (servers_steps r action).before.root
    have hresolve : (r.step action).resolve file = r.resolve file := by
      rw [resolve, resolve, hroot]
    have hrest := ih (hr.step action) hnext ht'
    rw [hresolve] at hrest
    obtain rfl | hrest | ⟨cause, hm, he⟩ := hrest
    · by_cases ha : action.task? = some t
      · obtain ⟨-, htries⟩ := tries_step hr hdoc ht ha hnext trivial
        obtain h | h | ⟨cause, rfl, h⟩ := htries.error ht hnext
        · exact .inl h
        · exact .inr (.inl h)
        · exact .inr (.inr ⟨cause, List.mem_cons_self, h⟩)
      · cases hnext.symm.trans (task_step ht ha)
        exact .inl rfl
    · exact .inr (.inl hrest)
    · exact .inr (.inr ⟨cause, List.mem_cons_of_mem action hm, he⟩)

theorem onlyTask_call (r : Registry) (call : RegistryCall) :
    OnlyTask r.tasks.length r (r.step (.call call)) where
  rest := ⟨_, r.locks, rfl⟩
  others u hu := by
    show (r.tasks ++ [⟨call, .begun⟩])[u]? = r.tasks[u]?
    rw [List.getElem?_append]
    split
    · rfl
    · rw [List.getElem?_eq_none (by simp; omega), List.getElem?_eq_none (by omega)]
  queues _ := rfl

theorem versions_finish (r : Registry) (t : Nat) : (r.finish t).versions = r.versions := by
  unfold finish unlock
  split <;> try rfl
  split <;> try rfl
  split <;> rfl

theorem Reachable.not_wanting (hr : r.Reachable)
    (ht : ∀ task, r.tasks[t]? = some task → task.stage.turn? = none) (uri : String) :
    t ∉ r.locks.wanting uri := by
  intro hm
  obtain ⟨stage, hs⟩ := hr.turnsFit.wants.1 hm
  simp only [turns, List.getElem?_map] at hs
  obtain ⟨task, htask, heq⟩ := Option.map_eq_some_iff.1 hs
  cases (ht task htask).symm.trans heq

theorem Reachable.nextVersion_run {actions : List RegistryAction} {uri : String} (hr : r.Reachable)
    (hw : r.wrote uri actions = []) : (r.run actions).nextVersion uri = r.nextVersion uri := by
  have htrace := (turns_run hr actions).version uri
  have hlookup : (r.run actions).versions.lookup uri = r.versions.lookup uri :=
    htrace.trans (congrArg (List.foldl _ _) hw)
  rw [nextVersion, nextVersion, hlookup]

theorem read_changed {u : Nat} {path : Path} {uri : String}
    (hu : r.tasks[u]? = some ⟨call, .reading .changed path uri⟩) (text : String) :
    r.step (.read u (.ok text)) =
      ((r.setVersion uri (r.nextVersion uri)).routeTo u
        (.changing uri (Language.detect path) text (r.nextVersion uri))
        (r.matching path)).finish u := by
  rw [step, read, hu]
  rfl

theorem lookup_changed {u : Nat} {path : Path} {uri : String}
    (hu : r.tasks[u]? = some ⟨call, .reading .changed path uri⟩) (text : String) :
    (r.step (.read u (.ok text))).versions.lookup uri = some (r.nextVersion uri) := by
  rw [read_changed hu, versions_finish]
  simp [routeTo, setStage, setVersion]

theorem task_called (r : Registry) (call : RegistryCall) :
    (r.step (.call call)).tasks[r.tasks.length]? = some ⟨call, .begun⟩ :=
  List.getElem?_concat_length

section Failed

variable {actions : List RegistryAction} {error : ServerError} (hr : r.Reachable)
  (hdoc : call.document? = some (event, file))
  (hfail : (r.run (.call call :: actions)).tasks[r.tasks.length]? =
    some ⟨call, .done (.error error)⟩)
include hr hfail

theorem not_wanting_of_failed (uri : String) :
    r.tasks.length ∉ (r.run (.call call :: actions)).locks.wanting uri := by
  refine (hr.run (.call call :: actions)).not_wanting (fun task htask => ?_) uri
  cases hfail.symm.trans htask
  rfl

include hdoc

theorem not_mem_wrote_of_failed (uri : String) (event' : DocumentEvent)
    (more : List RegistryAction) :
    (r.tasks.length, event') ∉ r.wrote uri (.call call :: actions ++ more) := by
  have hdone : (r.run (.call call :: actions ++ more)).tasks[r.tasks.length]? =
      some ⟨call, .done (.error error)⟩ := by
    rw [run_append]
    exact done_run hfail rfl more
  show _ ∉ (r.step (.call call)).wrote uri (actions ++ more)
  exact not_mem_wrote (hr.step _) hdoc (task_called r call) hdone trivial

theorem onlyTask_of_failed {before after : List RegistryAction}
    (hactions : actions = before ++ action :: after) (ha : action.task? = some r.tasks.length) :
    OnlyTask r.tasks.length (r.run (.call call :: before))
      (r.run (.call call :: before ++ [action])) := by
  subst hactions
  obtain ⟨stage, hstage⟩ := exists_task_run (task_called r call) before
  have hfail' : ((r.run (.call call :: before)).run (action :: after)).tasks[r.tasks.length]? =
      some ⟨call, .done (.error error)⟩ := by
    rw [← run_append]
    exact hfail
  rw [run_append]
  exact onlyTask_step (hr.run _) hdoc hstage ha hfail' trivial

theorem restored_of_failed (hown : ∀ action ∈ actions, action.task? = some r.tasks.length) :
    OnlyTask r.tasks.length r (r.run (.call call :: actions)) ∧
      ∀ uri, (r.run (.call call :: actions)).locks.wanting uri = r.locks.wanting uri := by
  have honly : OnlyTask r.tasks.length r (r.run (.call call :: actions)) :=
    (onlyTask_call r call).trans
      (onlyTask_run (hr.step _) hdoc (task_called r call) hown hfail trivial)
  refine ⟨honly, fun uri => ?_⟩
  have hnew : r.tasks.length ∉ r.locks.wanting uri := by
    refine hr.not_wanting (fun task htask => ?_) uri
    exact absurd htask (by simp)
  exact honly.wanting_eq hnew (not_wanting_of_failed hr hfail uri)

theorem nextVersion_of_failed {more : List RegistryAction} {uri : String}
    (hothers : ∀ v event, (v, event) ∈ r.wrote uri (.call call :: actions ++ more) →
      v = r.tasks.length) :
    ((r.run (.call call :: actions)).run more).nextVersion uri = r.nextVersion uri := by
  have hwrote : r.wrote uri (.call call :: actions ++ more) = [] := by
    refine List.eq_nil_iff_forall_not_mem.2 fun ⟨v, event⟩ hm => ?_
    cases hothers v event hm
    exact not_mem_wrote_of_failed hr hdoc hfail uri event more hm
  rw [← run_append]
  exact hr.nextVersion_run hwrote

end Failed

/-- An event on a document that fails, be it for want of a URI or because the file cannot be read,
does nothing but take its turn. Whenever it goes on, no other task, no entry, no server, no version
and no diagnostics change, and nothing happens that can be seen of a run; nobody else's turn is
lost, and in the end it wants no lock itself. So if it alone goes on, all is as before; and the next
change of a document that others have not touched gets the version that it would have got before. -/
theorem failed_event_changes_nothing {actions : List RegistryAction} {error : ServerError}
    (hr : r.Reachable) (hdoc : call.document? = some (event, file))
    (hfail : (r.run (.call call :: actions)).tasks[r.tasks.length]? =
      some ⟨call, .done (.error error)⟩) :
    let t := r.tasks.length
    let s := r.run (.call call :: actions)
    ((Uri.ofPath? (r.resolve file) = none ∧
        error = .read (r.resolve file) (Uri.noUriMessage (r.resolve file))) ∨
      ∃ cause, .read t (.error cause) ∈ actions ∧ error = .read (r.resolve file) cause.message) ∧
    (∀ before action after, actions = before ++ action :: after → action.task? = some t →
      OnlyTask t (r.run (.call call :: before)) (r.run (.call call :: before ++ [action]))) ∧
    ((∀ action ∈ actions, action.task? = some t) →
      OnlyTask t r s ∧ ∀ uri, s.locks.wanting uri = r.locks.wanting uri) ∧
    (∀ uri, t ∉ s.locks.wanting uri) ∧
    (∀ uri event more, (t, event) ∉ r.wrote uri (.call call :: actions ++ more)) ∧
    ∀ more u other path uri text,
      (∀ v event, (v, event) ∈ r.wrote uri (.call call :: actions ++ more) → v = t) →
      (s.run more).tasks[u]? = some ⟨other, .reading .changed path uri⟩ →
      ((s.run more).step (.read u (.ok text))).versions.lookup uri = some (r.nextVersion uri) ∧
      (s.run more).step (.read u (.ok text)) =
        (((s.run more).setVersion uri (r.nextVersion uri)).routeTo u
          (.changing uri (Language.detect path) text (r.nextVersion uri))
          ((s.run more).matching path)).finish u := by
  intro t s
  refine ⟨?_, fun before action after hactions ha => ?_, restored_of_failed hr hdoc hfail,
    not_wanting_of_failed hr hfail, not_mem_wrote_of_failed hr hdoc hfail, ?_⟩
  · exact (error_run (hr.step _) hdoc (task_called r call) hfail).resolve_left fun h => by cases h
  · exact onlyTask_of_failed hr hdoc hfail hactions ha
  · intro more u other path uri text hothers hu
    have hversion := nextVersion_of_failed hr hdoc hfail hothers
    have hlookup := lookup_changed hu text
    have hread := read_changed hu text
    rw [hversion] at hlookup hread
    exact ⟨hlookup, hread⟩

def oneTracked : Registry :=
  oneServer.run
    [.call (.document .opened (.ofString "a.ts")), .resume 0, .read 0 (.ok "x"), .deliver 0 0,
      .spawned 0 (.running false), .deliver 0 0, .sent 0 0 true]

def failedChange : List RegistryAction :=
  [.call (.document .changed (.ofString "a.ts")), .resume 1, .read 1 (.error .notFound)]

def laterChange : List RegistryAction :=
  [.call (.document .changed (.ofString "a.ts")), .resume 2]

theorem failed_event_between_changes :
    oneTracked.versions.lookup "file:///w/a.ts" = some 1 ∧
      OnlyTask 1 oneTracked (oneTracked.run failedChange) ∧
      (((oneTracked.run failedChange).run laterChange).step (.read 2 (.ok "y"))).versions.lookup
        "file:///w/a.ts" = some 2 := by
  have hr : oneTracked.Reachable := reachable_oneServer _
  have hfail : (oneTracked.run failedChange).tasks[1]? =
      some ⟨.document .changed (.ofString "a.ts"),
        .done (.error (.read (oneTracked.resolve (.ofString "a.ts"))
          FileError.notFound.message))⟩ := rfl
  have hread : ((oneTracked.run failedChange).run laterChange).tasks[2]? =
      some ⟨.document .changed (.ofString "a.ts"),
        .reading .changed (.ofString "/w/a.ts") "file:///w/a.ts"⟩ := rfl
  have hwrote : oneTracked.wrote "file:///w/a.ts" (failedChange ++ laterChange) = [] := by decide
  have hversion : oneTracked.nextVersion "file:///w/a.ts" = 2 := by decide
  obtain ⟨-, -, halone, -, -, hnext⟩ := failed_event_changes_nothing hr rfl hfail
  refine ⟨by decide, (halone (by decide)).1, ?_⟩
  have hothers (v : Nat) (event : DocumentEvent)
      (hm : (v, event) ∈ oneTracked.wrote "file:///w/a.ts" (failedChange ++ laterChange)) :
      v = oneTracked.tasks.length := by
    rw [hwrote] at hm
    cases hm
  have h := (hnext laterChange 2 _ _ _ "y" hothers hread).1
  rwa [hversion] at h

end Registry
end Switchyard
