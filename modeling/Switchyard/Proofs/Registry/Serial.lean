import Switchyard.Proofs.Registry.TurnOrder

namespace Switchyard

namespace Task

/-- A task that waits for its lock, as if it had not asked for it yet. -/
def unasked (task : Task) : Task :=
  match task.stage with
  | .locking _ _ _ => ⟨task.call, .begun⟩
  | _ => task

@[simp] theorem call_unasked (task : Task) : task.unasked.call = task.call := by
  unfold unasked
  split <;> rfl

theorem turn_of_unasked {task : Task} {uri : String} {stage : TurnStage}
    (h : task.unasked.stage.turn? = some (uri, stage)) :
    task.stage.turn? = some (uri, stage) ∧ stage.isWaiting = false := by
  obtain ⟨call, taskStage⟩ := task
  cases taskStage with
  | locking event path uri' => cases h
  | reading event path uri' =>
    cases h
    exact ⟨rfl, rfl⟩
  | routing errand ds =>
    have hturn : errand.turn? = some (uri, stage) := h
    refine ⟨h, ?_⟩
    cases errand <;> cases hturn <;> rfl
  | _ => cases h

end Task

namespace Registry

variable {r s : Registry} {t : Nat} {locks : DocumentLocks}

/-- A registry as it would be if nobody who waits for a lock had asked for it. -/
def unasked (r : Registry) (locks : DocumentLocks) : Registry :=
  { r with tasks := r.tasks.map Task.unasked, locks }

def SameButWaiting (r s : Registry) : Prop := ∃ locks, s = r.unasked locks

theorem unasked_task {task : Task} (ht : r.tasks[t]? = some task) :
    (r.unasked locks).tasks[t]? = some task.unasked := by
  simp [unasked, ht]

theorem unasked_task_none (ht : r.tasks[t]? = none) : (r.unasked locks).tasks[t]? = none := by
  simpa [unasked] using ht

theorem unasked_setStage {stage : TaskStage}
    (hs : ∀ call, Task.unasked ⟨call, stage⟩ = ⟨call, stage⟩) :
    (r.unasked locks).setStage t stage = (r.setStage t stage).unasked locks := by
  have hm : (r.tasks.map Task.unasked).modify t ({ · with stage }) =
      (r.tasks.modify t ({ · with stage })).map Task.unasked := by
    apply List.ext_getElem?
    intro u
    rw [List.getElem?_map, List.getElem?_modify, List.getElem?_modify, List.getElem?_map]
    cases r.tasks[u]? with
    | none => rfl
    | some task => by_cases h : t = u <;> simp [h, hs]
  simp only [setStage, unasked, hm]

theorem unasked_wait {call : RegistryCall} (ht : r.tasks[t]? = some ⟨call, .begun⟩)
    (event : DocumentEvent) (path : Path) (uri : String) (locks : DocumentLocks) :
    ((r.requestLock t uri).setStage t (.locking event path uri)).unasked locks =
      r.unasked locks := by
  have hm : (r.tasks.modify t ({ · with stage := .locking event path uri })).map Task.unasked =
      r.tasks.map Task.unasked := by
    apply List.ext_getElem?
    intro u
    rw [List.getElem?_map, List.getElem?_map, List.getElem?_modify]
    by_cases h : t = u
    · subst h
      simp [ht, Task.unasked]
    · simp [h]
  simp only [unasked, setStage, requestLock, hm]

theorem unasked_arrive (errand : Errand) (e : Nat) (entry : Entry) (h : Nat) :
    (r.unasked locks).arrive errand e entry h =
      ((r.arrive errand e entry h).1.unasked locks, (r.arrive errand e entry h).2) := by
  cases errand with
  | changing uri language text version =>
    simp only [arrive]
    split <;> rfl
  | closing uri =>
    simp only [arrive]
    split <;> rfl
  | _ => rfl

theorem unasked_seek (errand : Errand) (e : Nat) (entry : Entry) :
    (r.unasked locks).seek errand e entry =
      ((r.seek errand e entry).1.unasked locks, (r.seek errand e entry).2) := by
  unfold seek
  split
  · split
    · exact unasked_arrive _ _ _ _
    · rfl
  · split
    · rfl
    · split
      · exact unasked_arrive _ _ _ _
      · rfl
      · rfl

theorem unasked_advance (errand : Errand) (d : Delivery) (entry : Entry) :
    (r.unasked locks).advance errand d entry =
      ((r.advance errand d entry).1.unasked locks, (r.advance errand d entry).2) := by
  have ha (a : Nat) : (r.unasked locks).attempts[a]? = r.attempts[a]? := rfl
  unfold advance
  split
  · exact unasked_seek _ _ _
  · rw [ha]
    split
    · rfl
    · exact unasked_arrive _ _ _ _
    · rfl
  · rfl

theorem unasked_sent (t e h : Nat) (notice : Notice) (accepted : Bool) :
    (r.unasked locks).sent t e h notice accepted =
      ((r.sent t e h notice accepted).1.unasked locks, (r.sent t e h notice accepted).2) := by
  have hh : (r.unasked locks).handles[h]? = r.handles[h]? := rfl
  simp only [sent, hh]
  split
  · rfl
  · cases notice <;> rfl

theorem unasked_dispose (r : Registry) (locks : DocumentLocks) (h : Nat) :
    (r.unasked locks).dispose h = (r.dispose h).unasked locks := by
  have hh : (r.unasked locks).handles[h]? = r.handles[h]? := rfl
  simp only [dispose, hh]
  split
  · rfl
  · split <;> rfl

theorem unasked_exit (r : Registry) (locks : DocumentLocks) (h : Nat) :
    (r.unasked locks).exit h = (r.exit h).unasked locks := by
  have hh : (r.unasked locks).handles[h]? = r.handles[h]? := rfl
  have he (e : Nat) : (r.unasked locks).entries[e]? = r.entries[e]? := rfl
  simp only [exit, hh]
  split
  · rfl
  simp only [he]
  split
  · rfl
  split
  · split
    · exact unasked_dispose ((r.modifyEntry _ _).note _) locks _
    · rfl
  · rfl

theorem unasked_install (r : Registry) (locks : DocumentLocks) (a : Nat) (attempt : StartAttempt)
    (id : String) (current exited : Bool) :
    (r.unasked locks).install a attempt id current exited =
      (r.install a attempt id current exited).unasked locks := by
  cases current with
  | false =>
    let handles := r.handles ++ [(⟨attempt.entry, attempt.generation, false, false⟩ : Handle)]
    have hd := unasked_dispose { r with handles } locks r.handles.length
    exact congrArg (endAttempt · a _) hd
  | true =>
    cases exited with
    | false => rfl
    | true =>
      rw [install_exited, install_exited]
      exact unasked_exit (r.install a attempt id true false) locks r.handles.length

theorem unasked_spawned (a : Nat) (outcome : SpawnOutcome) :
    (r.unasked locks).spawned a outcome = (r.spawned a outcome).unasked locks := by
  have ha : (r.unasked locks).attempts[a]? = r.attempts[a]? := rfl
  have he (e : Nat) : (r.unasked locks).entries[e]? = r.entries[e]? := rfl
  simp only [spawned, ha]
  split
  · rfl
  simp only [he]
  split
  · cases outcome with
    | running exited => exact unasked_install r locks a _ _ _ exited
    | _ =>
      simp only [failAttempt]
      split <;> rfl
  · rfl

theorem unasked_receive (r : Registry) (locks : DocumentLocks) (h : Nat) (method : String)
    (params : Option Json) :
    (r.unasked locks).receive h method params = (r.receive h method params).unasked locks := by
  have hh : (r.unasked locks).handles[h]? = r.handles[h]? := rfl
  have he (e : Nat) : (r.unasked locks).entries[e]? = r.entries[e]? := rfl
  simp only [receive, hh, he]
  repeat' split
  all_goals rfl

namespace SameButWaiting

theorem unlock (h : r.SameButWaiting s) (t : Nat) (errand : Errand) :
    (r.unlock t errand).SameButWaiting (s.unlock t errand) := by
  obtain ⟨locks, rfl⟩ := h
  cases errand <;> exact ⟨_, rfl⟩

theorem setStage {stage : TaskStage} (h : r.SameButWaiting s) (t : Nat)
    (hs : ∀ call, Task.unasked ⟨call, stage⟩ = ⟨call, stage⟩) :
    (r.setStage t stage).SameButWaiting (s.setStage t stage) := by
  obtain ⟨locks, rfl⟩ := h
  exact ⟨locks, unasked_setStage hs⟩

theorem finish (h : r.SameButWaiting s) (t : Nat) :
    (r.finish t).SameButWaiting (s.finish t) := by
  have hsame := h
  obtain ⟨locks, rfl⟩ := h
  unfold Registry.finish
  cases ht : r.tasks[t]? with
  | none => simpa only [unasked_task_none ht] using hsame
  | some task =>
    obtain ⟨call, stage⟩ := task
    rw [unasked_task ht]
    cases stage with
    | routing errand ds =>
      simp only [Task.unasked]
      split
      · exact (hsame.unlock t errand).setStage t fun _ => rfl
      · exact hsame
    | _ => exact hsame

theorem routeTo (h : r.SameButWaiting s) (t : Nat) (errand : Errand) (es : List Nat) :
    (r.routeTo t errand es).SameButWaiting (s.routeTo t errand es) :=
  h.setStage t fun _ => rfl

theorem holdLock (h : r.SameButWaiting s) (t : Nat) (event : DocumentEvent) (path : Path)
    (uri : String) :
    (r.holdLock t event path uri).SameButWaiting (s.holdLock t event path uri) := by
  cases event with
  | closed =>
    obtain ⟨locks, rfl⟩ := h
    have hd : (r.dropVersion uri).SameButWaiting ((r.unasked locks).dropVersion uri) := ⟨locks, rfl⟩
    exact (hd.routeTo t (.closing uri) (r.matching path)).finish t
  | _ => exact h.setStage t fun _ => rfl

theorem setDelivery (h : r.SameButWaiting s) (t : Nat) (errand : Errand) (ds : List Delivery)
    (d : Nat) (stage : DeliveryStage) :
    (r.setDelivery t errand ds d stage).SameButWaiting (s.setDelivery t errand ds d stage) :=
  (h.setStage t fun _ => rfl).finish t

theorem read (h : r.SameButWaiting s) (t : Nat) (result : Except FileError String) :
    (r.read t result).SameButWaiting (s.read t result) := by
  have hsame := h
  obtain ⟨locks, rfl⟩ := h
  unfold Registry.read
  cases ht : r.tasks[t]? with
  | none => simpa only [unasked_task_none ht] using hsame
  | some task =>
    obtain ⟨call, stage⟩ := task
    rw [unasked_task ht]
    cases stage with
    | reading event path uri =>
      cases result with
      | error e => exact (hsame.unlock t (.closing uri)).setStage t fun _ => rfl
      | ok text =>
        simp only [Task.unasked]
        have hv (v : Int32) : (r.setVersion uri v).SameButWaiting
            ((r.unasked locks).setVersion uri v) := ⟨locks, rfl⟩
        exact ((hv _).routeTo t _ _).finish t
    | _ => exact hsame

theorem deliver (h : r.SameButWaiting s) (t d : Nat) :
    (r.deliver t d).SameButWaiting (s.deliver t d) := by
  have hsame := h
  obtain ⟨locks, rfl⟩ := h
  have he (e : Nat) : (r.unasked locks).entries[e]? = r.entries[e]? := rfl
  unfold Registry.deliver
  cases ht : r.tasks[t]? with
  | none => simpa only [unasked_task_none ht] using hsame
  | some task =>
    obtain ⟨call, stage⟩ := task
    rw [unasked_task ht]
    cases stage with
    | routing errand ds =>
      simp only [Task.unasked, he, unasked_advance]
      split
      · exact hsame
      split
      · exact hsame
      exact setDelivery ⟨locks, rfl⟩ t errand ds d _
    | _ => exact hsame

theorem endSending (h : r.SameButWaiting s) (t d : Nat) (accepted : Bool) :
    (r.endSending t d accepted).SameButWaiting (s.endSending t d accepted) := by
  have hsame := h
  obtain ⟨locks, rfl⟩ := h
  unfold Registry.endSending
  cases ht : r.tasks[t]? with
  | none => simpa only [unasked_task_none ht] using hsame
  | some task =>
    obtain ⟨call, stage⟩ := task
    rw [unasked_task ht]
    cases stage with
    | routing errand ds =>
      simp only [Task.unasked, unasked_sent]
      split
      · exact setDelivery ⟨locks, rfl⟩ t errand ds d _
      · exact hsame
    | _ => exact hsame

theorem close (h : r.SameButWaiting s) (t i : Nat) :
    (r.close t i).SameButWaiting (s.close t i) := by
  have hsame := h
  obtain ⟨locks, rfl⟩ := h
  unfold Registry.close
  cases ht : r.tasks[t]? with
  | none => simpa only [unasked_task_none ht] using hsame
  | some task =>
    obtain ⟨call, stage⟩ := task
    rw [unasked_task ht]
    cases stage with
    | closing handles =>
      simp only [Task.unasked]
      split
      · have hd : (r.dispose i).SameButWaiting ((r.unasked locks).dispose i) :=
          ⟨locks, unasked_dispose r locks i⟩
        refine hd.setStage t fun _ => ?_
        split <;> rfl
      · exact hsame
    | _ => exact hsame

end SameButWaiting

def waitsAt (r : Registry) : RegistryAction → Bool
  | .resume t =>
    match r.tasks[t]? with
    | some ⟨call, .begun⟩ =>
      match r.asks? call with
      | some (_, uri) => !(r.requestLock t uri).hasLock t
      | none => false
    | some ⟨_, .locking _ _ _⟩ => !r.hasLock t
    | _ => false
  | _ => false

/-- The actions of a run without those that let a task wait: each task asks for its lock when it can
have it. -/
def serial (r : Registry) : List RegistryAction → List RegistryAction
  | [] => []
  | action :: actions =>
    if r.waitsAt action then (r.step action).serial actions
    else action :: (r.step action).serial actions

theorem begin_of_asks {call : RegistryCall} {event : DocumentEvent} {uri : String}
    (ha : r.asks? call = some (event, uri)) :
    ∃ file, call.document? = some (event, file) ∧ Uri.ofPath? (r.resolve file) = some uri ∧
      r.begin t call = if (r.requestLock t uri).hasLock t then
        (r.requestLock t uri).holdLock t event (r.resolve file) uri
      else (r.requestLock t uri).setStage t (.locking event (r.resolve file) uri) := by
  have hdocument {event' : DocumentEvent} {file : Path}
      (hu : (Uri.ofPath? (r.resolve file)).map (event', ·) = some (event, uri)) :
      event' = event ∧ Uri.ofPath? (r.resolve file) = some uri ∧
        r.beginDocument t event file = if (r.requestLock t uri).hasLock t then
          (r.requestLock t uri).holdLock t event (r.resolve file) uri
        else (r.requestLock t uri).setStage t (.locking event (r.resolve file) uri) := by
    obtain ⟨uri', hu, heq⟩ := Option.map_eq_some_iff.1 hu
    cases heq
    exact ⟨rfl, hu, by simp only [beginDocument, hu]⟩
  cases call with
  | document event' file =>
    obtain ⟨rfl, hu, hb⟩ := hdocument ha
    exact ⟨file, rfl, hu, hb⟩
  | watched event' file =>
    simp only [asks?] at ha
    split at ha
    · rename_i hw
      obtain ⟨rfl, hu, hb⟩ := hdocument ha
      exact ⟨file, rfl, hu, by rw [begin, if_pos hw, hb]⟩
    · cases ha
  | _ => cases ha

theorem SameButWaiting.begin_of_none {call : RegistryCall} (h : r.SameButWaiting s) (t : Nat)
    (ha : r.asks? call = none) : (r.begin t call).SameButWaiting (s.begin t call) := by
  have hsame := h
  obtain ⟨locks, rfl⟩ := h
  have hdocument {event : DocumentEvent} {file : Path}
      (hu : (Uri.ofPath? (r.resolve file)).map (event, ·) = none) :
      (r.beginDocument t event file).SameButWaiting
        ((r.unasked locks).beginDocument t event file) := by
    have hu := Option.map_eq_none_iff.1 hu
    have hu' : Uri.ofPath? ((r.unasked locks).resolve file) = none := hu
    simp only [beginDocument, hu, hu']
    exact hsame.setStage t fun _ => rfl
  cases call with
  | document event file => exact hdocument ha
  | watched event file =>
    have hw : (r.unasked locks).watch = r.watch := rfl
    simp only [asks?] at ha
    simp only [begin, hw]
    split
    · rename_i hacc
      rw [if_pos hacc] at ha
      exact hdocument ha
    · split <;> exact hsame.setStage t fun _ => rfl
  | start id =>
    have he : (r.unasked locks).entries = r.entries := rfl
    simp only [begin, he]
    split
    · exact hsame.setStage t fun _ => rfl
    · exact hsame.routeTo t _ _
  | route file method params => exact (hsame.routeTo t _ _).finish t
  | prewarm dryRun languages =>
    simp only [begin]
    split
    · exact hsame.setStage t fun _ => rfl
    · exact (hsame.routeTo t _ _).finish t
  | shutdownAll =>
    have ht : (r.takeAll).1.SameButWaiting ((r.unasked locks).takeAll).1 := by
      rw [takeAll_eq, takeAll_eq]
      exact ⟨locks, rfl⟩
    have hn : ((r.unasked locks).takeAll).2 = (r.takeAll).2 := by
      rw [takeAll_eq, takeAll_eq]
      rfl
    simp only [begin, hn]
    refine ht.setStage t fun _ => ?_
    split <;> rfl

/-- If all that want a lock wait for it, nobody wants it where nobody who waits has asked. -/
theorem SameButWaiting.nobody_wants {uri : String} (h : r.SameButWaiting s) (hs : s.Reachable)
    (hn : ∀ (u : Nat) (stage : TurnStage), r.turns.stages[u]? = some (some (uri, stage)) →
      stage.isWaiting = true) :
    s.locks.wanting uri = [] := by
  obtain ⟨locks, rfl⟩ := h
  apply List.eq_nil_iff_forall_not_mem.2
  intro u hu
  obtain ⟨stage, hstage⟩ := hs.turnsFit.wants.1 hu
  simp only [turns, unasked, List.map_map, List.getElem?_map] at hstage
  obtain ⟨task, ht, heq⟩ := Option.map_eq_some_iff.1 hstage
  obtain ⟨hturn, hw⟩ := Task.turn_of_unasked heq
  have hwait := hn u stage (by rw [turns_of_task ht, hturn])
  cases hw.symm.trans hwait

theorem hasLock_of_nobody {task : Task} {uri : String} (hr : r.Reachable)
    (ht : r.tasks[t]? = some task) (hb : task.stage.turn? = none)
    (hn : r.locks.wanting uri = []) : (r.requestLock t uri).hasLock t = true := by
  have hx := hr.turnsFit
  have hs := turns_of_task ht
  rw [hb] at hs
  refine (hx.locks.request (hx.not_queued hs) uri).has_iff.2 ⟨uri, ?_⟩
  rw [hx.locks.wanting_request, if_pos rfl]
  have hq : r.turns.locks.wanting uri = [] := hn
  rw [hq]
  rfl

theorem nobody_of_hasLock {task : Task} {uri : String} (hr : r.Reachable)
    (ht : r.tasks[t]? = some task) (hb : task.stage.turn? = none)
    (hl : (r.requestLock t uri).hasLock t = true) : r.locks.wanting uri = [] := by
  have hx := hr.turnsFit
  have hs := turns_of_task ht
  rw [hb] at hs
  obtain ⟨uri', hf⟩ := (hx.locks.request (hx.not_queued hs) uri).has_iff.1 hl
  rw [hx.locks.wanting_request] at hf
  split at hf
  · cases hq : r.locks.wanting uri with
    | nil => rfl
    | cons u rest =>
      have hq' : r.turns.locks.wanting uri = u :: rest := hq
      rw [hq'] at hf
      have hm : t ∈ r.turns.locks.wanting uri := by
        cases hf
        rw [hq']
        exact List.mem_cons_self
      exact absurd hm (hx.not_wanting hs uri)
  · exact absurd (List.mem_of_mem_head? hf) (hx.not_wanting hs uri')

@[simp] theorem taken?_turn (t : Nat) (event : DocumentEvent) (uri uri' : String) :
    (TurnEvent.turn t event uri').filterMap (TurnEvent.taken? uri) =
      if uri' = uri then [t] else [] := by
  by_cases h : uri' = uri
  · cases event <;> simp [TurnEvent.turn, TurnEvent.taken?, h]
  · cases event <;> simp [TurnEvent.turn, TurnEvent.taken?, h]

@[simp] theorem asked?_turn (t : Nat) (event : DocumentEvent) (uri uri' : String) :
    (TurnEvent.turn t event uri').filterMap (TurnEvent.asked? uri) = [] := by
  cases event <;> simp [TurnEvent.turn, TurnEvent.asked?]

theorem asked?_read (r : Registry) (t : Nat) (result : Except FileError String) (uri : String) :
    (r.turnEvents (.read t result)).filterMap (TurnEvent.asked? uri) = [] := by
  cases result with
  | error e => rfl
  | ok text =>
    simp only [turnEvents]
    split <;> rfl

theorem taken?_read (r : Registry) (t : Nat) (result : Except FileError String) (uri : String) :
    (r.turnEvents (.read t result)).filterMap (TurnEvent.taken? uri) = [] := by
  cases result with
  | error e => rfl
  | ok text =>
    simp only [turnEvents]
    split <;> rfl

namespace SameButWaiting

theorem wait {action : RegistryAction} (h : r.SameButWaiting s)
    (hw : r.waitsAt action = true) : (r.step action).SameButWaiting s ∧
      ∀ uri, (r.turnEvents action).filterMap (TurnEvent.taken? uri) = [] := by
  cases action with
  | resume t =>
    simp only [waitsAt] at hw
    split at hw
    · rename_i call ht
      split at hw
      · rename_i event uri ha
        have hl : (r.requestLock t uri).hasLock t = false := by simpa using hw
        obtain ⟨file, _, _, hb⟩ := begin_of_asks (t := t) ha
        rw [hl] at hb
        constructor
        · obtain ⟨locks, rfl⟩ := h
          refine ⟨locks, ?_⟩
          simp only [step, Registry.resume, ht, hb, Bool.false_eq_true, if_false]
          exact (unasked_wait ht event _ uri locks).symm
        · intro uri'
          simp [turnEvents, ht, ha, hl, TurnEvent.taken?]
      · cases hw
    · rename_i call event path uri ht
      have hl : r.hasLock t = false := by simpa using hw
      constructor
      · simpa only [step, Registry.resume, ht, hl, Bool.false_eq_true, if_false] using h
      · intro uri'
        simp [turnEvents, ht, hl]
    · cases hw
  | _ => cases hw

theorem takes {call : RegistryCall} {event : DocumentEvent} {uri : String}
    (h : r.SameButWaiting s) (hs : s.Reachable) (ht : s.tasks[t]? = some ⟨call, .begun⟩)
    (ha : r.asks? call = some (event, uri))
    (hn : ∀ (u : Nat) (stage : TurnStage), r.turns.stages[u]? = some (some (uri, stage)) →
      stage.isWaiting = true) :
    ∃ file, call.document? = some (event, file) ∧
      (r.holdLock t event (r.resolve file) uri).SameButWaiting (s.step (.resume t)) ∧
      ∀ uri', (s.turnEvents (.resume t)).filterMap (TurnEvent.asked? uri') =
        if uri = uri' then [t] else [] := by
  have hl := hasLock_of_nobody hs ht rfl (h.nobody_wants hs hn)
  have hsame : r.SameButWaiting (s.requestLock t uri) := by
    obtain ⟨locks, rfl⟩ := h
    exact ⟨locks.request t uri, rfl⟩
  obtain ⟨locks, rfl⟩ := h
  have ha' : (r.unasked locks).asks? call = some (event, uri) := ha
  obtain ⟨file, hdoc, _, hb⟩ := begin_of_asks (t := t) ha'
  rw [if_pos hl] at hb
  refine ⟨file, hdoc, ?_, ?_⟩
  · simp only [step, Registry.resume, ht, hb]
    exact hsame.holdLock t event _ uri
  · intro uri'
    simp only [turnEvents, ht, ha', if_pos hl, List.filterMap_cons, TurnEvent.asked?, asked?_turn]
    by_cases heq : uri = uri' <;> simp [heq]

/-- A task that gets the lock of its document at once begins in both. -/
theorem resume_asking {call : RegistryCall} {event : DocumentEvent} {uri : String}
    (h : r.SameButWaiting s) (hr : r.Reachable) (hs : s.Reachable)
    (ht : r.tasks[t]? = some ⟨call, .begun⟩) (ha : r.asks? call = some (event, uri))
    (hl : (r.requestLock t uri).hasLock t = true) :
    (r.step (.resume t)).SameButWaiting (s.step (.resume t)) ∧
      ∀ uri, (s.turnEvents (.resume t)).filterMap (TurnEvent.asked? uri) =
        (r.turnEvents (.resume t)).filterMap (TurnEvent.taken? uri) := by
  have hnone : r.turns.locks.wanting uri = [] := nobody_of_hasLock hr ht rfl hl
  have hwait (u : Nat) (stage : TurnStage)
      (hstage : (r.requestLock t uri).turns.stages[u]? = some (some (uri, stage))) :
      stage.isWaiting = true := by
    have hm := hr.turnsFit.wants.2 ⟨stage, hstage⟩
    rw [hnone] at hm
    cases hm
  obtain ⟨locks, rfl⟩ := h
  have hsame : (r.requestLock t uri).SameButWaiting (r.unasked locks) := ⟨locks, rfl⟩
  obtain ⟨file, hdoc, hturn, hevents⟩ := hsame.takes hs (unasked_task ht) ha hwait
  obtain ⟨file', hdoc', _, hb⟩ := begin_of_asks (t := t) ha
  cases hdoc.symm.trans hdoc'
  rw [if_pos hl] at hb
  have hstep : r.step (.resume t) =
      (r.requestLock t uri).holdLock t event (r.resolve file) uri := by
    simp only [Registry.step, Registry.resume, ht, hb]
  constructor
  · rw [hstep]
    exact hturn
  · intro uri'
    rw [hevents uri']
    simp only [turnEvents, ht, ha, if_pos hl, List.filterMap_cons, TurnEvent.taken?, taken?_turn]

/-- A task that gets the lock that it waits for begins where nobody who waits has asked. -/
theorem resume_locking {call : RegistryCall} {event : DocumentEvent} {path : Path} {uri : String}
    (h : r.SameButWaiting s) (hr : r.Reachable) (hs : s.Reachable)
    (ht : r.tasks[t]? = some ⟨call, .locking event path uri⟩) (hl : r.hasLock t = true) :
    (r.step (.resume t)).SameButWaiting (s.step (.resume t)) ∧
      ∀ uri, (s.turnEvents (.resume t)).filterMap (TurnEvent.asked? uri) =
        (r.turnEvents (.resume t)).filterMap (TurnEvent.taken? uri) := by
  have hx := hr.turnsFit
  have hf := hx.first_of_has (turns_of_task ht) hl
  have hwait (u : Nat) (stage : TurnStage)
      (hstage : r.turns.stages[u]? = some (some (uri, stage))) : stage.isWaiting = true := by
    by_contra hwait
    have hfu := hx.first hstage (eq_false_of_ne_true hwait)
    cases hf.symm.trans hfu
    cases (turns_of_task ht).symm.trans hstage
    exact hwait rfl
  obtain ⟨file, hdoc, hpath, _⟩ := hr.taskFits t _ ht
  obtain ⟨event', ha⟩ := hr.asks ht rfl
  have ht' : s.tasks[t]? = some ⟨call, .begun⟩ := by
    obtain ⟨locks, rfl⟩ := h
    exact unasked_task ht
  obtain ⟨file', hdoc', hturn, hevents⟩ := h.takes hs ht' ha hwait
  cases hdoc.symm.trans hdoc'
  have hstep : r.step (.resume t) = r.holdLock t event (r.resolve file) uri := by
    simp only [Registry.step, Registry.resume, ht, hl, if_true, hpath]
  constructor
  · rw [hstep]
    exact hturn
  · intro uri'
    rw [hevents uri']
    simp [turnEvents, ht, hl]

theorem resume (h : r.SameButWaiting s) (hr : r.Reachable) (hs : s.Reachable) (t : Nat)
    (hw : r.waitsAt (.resume t) = false) :
    (r.step (.resume t)).SameButWaiting (s.step (.resume t)) ∧
      ∀ uri, (s.turnEvents (.resume t)).filterMap (TurnEvent.asked? uri) =
        (r.turnEvents (.resume t)).filterMap (TurnEvent.taken? uri) := by
  have hsame := h
  obtain ⟨locks, rfl⟩ := h
  cases ht : r.tasks[t]? with
  | none =>
    have ht' : (r.unasked locks).tasks[t]? = none := unasked_task_none ht
    simpa [step, Registry.resume, turnEvents, ht, ht'] using hsame
  | some task =>
    obtain ⟨call, stage⟩ := task
    have ht' : (r.unasked locks).tasks[t]? = some (Task.unasked ⟨call, stage⟩) := unasked_task ht
    cases stage with
    | begun =>
      cases ha : r.asks? call with
      | none =>
        have ht' : (r.unasked locks).tasks[t]? = some ⟨call, .begun⟩ := ht'
        have ha' : (r.unasked locks).asks? call = none := ha
        have hb := hsame.begin_of_none t ha
        simpa [step, Registry.resume, turnEvents, ht, ht', ha, ha'] using hb
      | some asked =>
        exact hsame.resume_asking hr hs ht ha (by simpa [waitsAt, ht, ha] using hw)
    | locking event path uri =>
      exact hsame.resume_locking hr hs ht (by simpa [waitsAt, ht] using hw)
    | _ => simpa [step, Registry.resume, turnEvents, ht, ht', Task.unasked] using hsame

theorem step {action : RegistryAction} (h : r.SameButWaiting s) (hr : r.Reachable)
    (hs : s.Reachable) (hw : r.waitsAt action = false) :
    (r.step action).SameButWaiting (s.step action) ∧
      ∀ uri, (s.turnEvents action).filterMap (TurnEvent.asked? uri) =
        (r.turnEvents action).filterMap (TurnEvent.taken? uri) := by
  cases action with
  | resume t => exact h.resume hr hs t hw
  | call call =>
    obtain ⟨locks, rfl⟩ := h
    refine ⟨⟨locks, ?_⟩, fun _ => rfl⟩
    simp [Registry.step, unasked, Task.unasked]
  | read t result =>
    refine ⟨h.read t result, fun uri => ?_⟩
    rw [asked?_read, taken?_read]
  | deliver t d => exact ⟨h.deliver t d, fun _ => rfl⟩
  | sent t d accepted => exact ⟨h.endSending t d accepted, fun _ => rfl⟩
  | spawned a outcome =>
    obtain ⟨locks, rfl⟩ := h
    exact ⟨⟨locks, unasked_spawned a outcome⟩, fun _ => rfl⟩
  | closed t i => exact ⟨h.close t i, fun _ => rfl⟩
  | exit i =>
    obtain ⟨locks, rfl⟩ := h
    exact ⟨⟨locks, unasked_exit r locks i⟩, fun _ => rfl⟩
  | notify i method params =>
    obtain ⟨locks, rfl⟩ := h
    exact ⟨⟨locks, unasked_receive r locks i method params⟩, fun _ => rfl⟩
  | hub call =>
    obtain ⟨locks, rfl⟩ := h
    exact ⟨⟨locks, rfl⟩, fun _ => rfl⟩

theorem run (h : r.SameButWaiting s) (hr : r.Reachable) (hs : s.Reachable)
    (actions : List RegistryAction) : (r.run actions).SameButWaiting (s.run (r.serial actions)) ∧
      ∀ uri, (s.turnsOf (r.serial actions)).filterMap (TurnEvent.asked? uri) =
        (r.turnsOf actions).filterMap (TurnEvent.taken? uri) := by
  induction actions generalizing r s with
  | nil => exact ⟨h, fun _ => rfl⟩
  | cons action actions ih =>
    simp only [serial, turnsOf, List.filterMap_append]
    split
    · rename_i hw
      obtain ⟨hsame, htaken⟩ := h.wait hw
      obtain ⟨hrun, hevents⟩ := ih hsame (hr.step action) hs
      refine ⟨hrun, fun uri => ?_⟩
      rw [htaken uri, List.nil_append]
      exact hevents uri
    · rename_i hw
      obtain ⟨hsame, htaken⟩ := h.step hr hs (eq_false_of_ne_true hw)
      obtain ⟨hrun, hevents⟩ := ih hsame (hr.step action) (hs.step action)
      refine ⟨hrun, fun uri => ?_⟩
      rw [turnsOf, List.filterMap_append, htaken uri, hevents uri]

end SameButWaiting

theorem serial_prefix {actions first rest : List RegistryAction}
    (h : r.serial actions = first ++ rest) : ∃ before, first = r.serial before := by
  induction actions generalizing r first with
  | nil =>
    obtain ⟨rfl, _⟩ := List.append_eq_nil_iff.1 h.symm
    exact ⟨[], rfl⟩
  | cons action actions ih =>
    simp only [serial] at h
    split at h
    · rename_i hw
      obtain ⟨before, rfl⟩ := ih h
      exact ⟨action :: before, by rw [serial, if_pos hw]⟩
    · rename_i hw
      cases first with
      | nil => exact ⟨[], rfl⟩
      | cons action' first =>
        obtain ⟨rfl, hrest⟩ := List.cons.inj h
        obtain ⟨before, rfl⟩ := ih hrest
        exact ⟨action :: before, by rw [serial, if_neg hw]⟩

def HasTurn (r : Registry) (t : Nat) (uri : String) : Prop :=
  ∃ task stage, r.tasks[t]? = some task ∧ task.stage.turn? = some (uri, stage) ∧
    stage.isWaiting = false

def Waits (r : Registry) (t : Nat) (uri : String) : Prop :=
  ∃ task stage, r.tasks[t]? = some task ∧ task.stage.turn? = some (uri, stage) ∧
    stage.isWaiting = true

/-- The tasks that ask for the lock of a document in a run, in the order in which they do. -/
def asked (r : Registry) (uri : String) (actions : List RegistryAction) : List Nat :=
  (r.turnsOf actions).filterMap (TurnEvent.asked? uri)

/-- The tasks that give a document a version in a run, or take it away, and for what. -/
def wrote (r : Registry) (uri : String) (actions : List RegistryAction) :
    List (Nat × DocumentEvent) :=
  (r.turnsOf actions).filterMap (TurnEvent.wrote? uri)

theorem HasTurn.unique {uri : String} {u : Nat} (h : r.HasTurn t uri) (h' : r.HasTurn u uri)
    (hr : r.Reachable) : t = u := by
  obtain ⟨task, stage, ht, hs, hw⟩ := h
  obtain ⟨task', stage', ht', hs', hw'⟩ := h'
  refine hr.turnsFit.exclusive (turns_of_task ht |>.trans (congrArg some hs)) hw
    (turns_of_task ht' |>.trans (congrArg some hs')) hw'

theorem SameButWaiting.not_waits (h : r.SameButWaiting s) (t : Nat) (uri : String) :
    ¬ s.Waits t uri := by
  obtain ⟨locks, rfl⟩ := h
  rintro ⟨task, stage, ht, hs, hw⟩
  simp only [unasked, List.getElem?_map] at ht
  obtain ⟨old, _, rfl⟩ := Option.map_eq_some_iff.1 ht
  cases (Task.turn_of_unasked hs).2.symm.trans hw

theorem same_self (hn : ∀ task ∈ r.tasks, task.stage.turn? = none) : r.SameButWaiting r := by
  refine ⟨r.locks, ?_⟩
  have hm : r.tasks.map Task.unasked = r.tasks := by
    refine (List.map_congr_left fun task ht => ?_).trans (List.map_id r.tasks)
    obtain ⟨call, stage⟩ := task
    cases stage with
    | locking event path uri => cases hn _ ht
    | _ => rfl
  rw [unasked, hm]

theorem standing_eq_nil (hn : ∀ task ∈ r.tasks, task.stage.turn? = none) (hr : r.Reachable)
    (p : TurnStage → Bool) (uri : String) : r.turns.standing p uri = [] := by
  apply List.filter_eq_nil_iff.2
  intro u hu
  obtain ⟨stage, hs⟩ := hr.turnsFit.wants.1 hu
  simp only [turns, List.getElem?_map] at hs
  obtain ⟨task, ht, hstage⟩ := Option.map_eq_some_iff.1 hs
  cases (hn task (List.mem_of_getElem? ht)).symm.trans hstage

theorem mem_standing_waiting {uri : String} (hr : r.Reachable)
    (hm : t ∈ r.turns.standing TurnStage.isWaiting uri) : r.Waits t uri := by
  obtain ⟨hq, hp⟩ := List.mem_filter.1 hm
  obtain ⟨stage, hs⟩ := hr.turnsFit.wants.1 hq
  rw [hs] at hp
  simp only [turns, List.getElem?_map] at hs
  obtain ⟨task, ht, hstage⟩ := Option.map_eq_some_iff.1 hs
  exact ⟨task, stage, ht, hstage, by simpa using hp⟩

theorem wrote_turnEvents {action : RegistryAction} {uri : String} {event : DocumentEvent}
    (hr : r.Reachable) (hm : .wrote t uri event ∈ r.turnEvents action) :
    ∃ task path, r.tasks[t]? = some task ∧ r.Reports task.call event path uri := by
  have hturn {event' : DocumentEvent} {u : Nat} {uri' : String}
      (h : TurnEvent.wrote t uri event ∈ TurnEvent.turn u event' uri') :
      u = t ∧ uri' = uri ∧ event' = event := by
    cases event' <;> simp_all [TurnEvent.turn]
  cases action with
  | resume u =>
    simp only [turnEvents] at hm
    split at hm
    · rename_i call ht
      split at hm
      · rename_i event' uri' ha
        obtain h | h := List.mem_cons.1 hm
        · cases h
        · split at h
          · obtain ⟨rfl, rfl, rfl⟩ := hturn h
            obtain ⟨file, hdoc, hu, _⟩ := begin_of_asks (t := u) ha
            exact ⟨_, _, ht, file, hdoc, rfl, hu⟩
          · cases h
      · cases hm
    · rename_i call event' path uri' ht
      split at hm
      · obtain ⟨rfl, rfl, rfl⟩ := hturn hm
        exact ⟨_, path, ht, hr.taskFits u _ ht⟩
      · cases hm
    · cases hm
  | read u result =>
    cases result with
    | error e => cases hm
    | ok text =>
      simp only [turnEvents] at hm
      split at hm
      · rename_i call event' path uri' ht
        cases List.mem_singleton.1 hm
        exact ⟨_, path, ht, (hr.taskFits t _ ht).1⟩
      · cases hm
  | _ => cases hm

theorem mem_wrote {uri : String} {event : DocumentEvent} {actions : List RegistryAction}
    (hr : r.Reachable) (hm : (t, event) ∈ r.wrote uri actions) :
    ∃ task path, (r.run actions).tasks[t]? = some task ∧
      (r.run actions).Reports task.call event path uri := by
  have hmem : .wrote t uri event ∈ r.turnsOf actions := by
    obtain ⟨e, he, heq⟩ := List.mem_filterMap.1 hm
    cases e with
    | wrote u uri' event' =>
      simp only [TurnEvent.wrote?] at heq
      split at heq
      · rename_i huri
        cases heq
        rwa [← huri]
      · cases heq
    | _ => cases heq
  clear hm
  have hkept {r : Registry} {task : Task} {path : Path} (actions : List RegistryAction)
      (hr : r.Reachable) (ht : r.tasks[t]? = some task)
      (hrep : r.Reports task.call event path uri) :
      ∃ task path, (r.run actions).tasks[t]? = some task ∧
        (r.run actions).Reports task.call event path uri := by
    induction actions generalizing r task with
    | nil => exact ⟨task, path, ht, hrep⟩
    | cons action actions ih =>
      obtain ⟨task', ht', hcall⟩ := calls_step r action t task ht
      refine ih (hr.step action) ht' ?_
      rw [hcall]
      exact reports_before (servers_steps r action).before hrep
  induction actions generalizing r with
  | nil => cases hmem
  | cons action actions ih =>
    obtain h | h := List.mem_append.1 hmem
    · obtain ⟨task, path, ht, hrep⟩ := wrote_turnEvents hr h
      exact hkept (action :: actions) hr ht hrep
    · exact ih (hr.step action) h

/-- Calls take their turns at a document one at a time and in the order in which they ask for its
lock, and all that becomes of the registry but who waits, its versions and what servers accept among
it, is what becomes of it if each of them asks only once its turn has come, so that nobody waits.
The version of the document is what the turns make of it one after another, and once no call is
under way only open documents have locks. -/
theorem calls_in_turn (hr : r.Reachable) (hn : ∀ task ∈ r.tasks, task.stage.turn? = none)
    (actions : List RegistryAction) :
    (∀ t u uri, (r.run actions).HasTurn t uri → (r.run actions).HasTurn u uri → t = u) ∧
      (∀ uri, ∃ waiting, r.asked uri actions = r.asked uri (r.serial actions) ++ waiting ∧
        ∀ t ∈ waiting, (r.run actions).Waits t uri) ∧
      (∀ first rest, r.serial actions = first ++ rest → ∀ t uri, ¬ (r.run first).Waits t uri) ∧
      (r.run actions).SameButWaiting (r.run (r.serial actions)) ∧
      (∀ uri, (r.run actions).versions.lookup uri = (r.wrote uri actions).foldl
          (fun version written => written.2.version version) (r.versions.lookup uri) ∧
        ((r.wrote uri actions).map (·.1)).Sublist (r.asked uri actions) ∧
        ∀ t event, (t, event) ∈ r.wrote uri actions →
          ∃ task path, (r.run actions).tasks[t]? = some task ∧
            (r.run actions).Reports task.call event path uri) ∧
      ((∀ task ∈ (r.run actions).tasks, ∃ result, task.stage = .done result) →
        ∀ uri, ((r.run actions).locks.lock? uri).isSome →
          ((r.run actions).versions.lookup uri).isSome) := by
  have hr' := hr.run actions
  have htrace := turns_run hr actions
  obtain ⟨hsame, htaken⟩ := (same_self hn).run hr hr actions
  have horder (uri : String) : r.asked uri actions = r.asked uri (r.serial actions) ++
      (r.run actions).turns.standing TurnStage.isWaiting uri := by
    have ho := htrace.order hr.turnsFit uri
    rw [standing_eq_nil hn hr, List.nil_append, ← htaken uri] at ho
    exact ho
  refine ⟨?_, ?_, ?_, hsame, ?_, ?_⟩
  · intro t u uri h h'
    exact h.unique h' hr'
  · intro uri
    exact ⟨_, horder uri, fun t ht => mem_standing_waiting hr' ht⟩
  · intro first rest hfirst
    obtain ⟨before, rfl⟩ := serial_prefix hfirst
    exact ((same_self hn).run hr hr before).1.not_waits
  · intro uri
    refine ⟨htrace.version uri, ?_, fun t event hm => mem_wrote hr hm⟩
    have hw := htrace.writes hr.turnsFit uri
    rw [standing_eq_nil hn hr, List.nil_append, ← htaken uri] at hw
    have hsub := (List.sublist_append_left _ _).trans hw
    rw [horder uri]
    exact hsub.trans (List.sublist_append_left _ _)
  · intro hdone uri hl
    obtain ⟨l, hl⟩ := Option.isSome_iff_exists.1 hl
    refine hr'.turnsFit.kept hl (List.eq_nil_iff_forall_not_mem.2 fun u hu => ?_)
    obtain ⟨stage, hs⟩ := hr'.turnsFit.wants.1 hu
    simp only [turns, List.getElem?_map] at hs
    obtain ⟨task, ht, hstage⟩ := Option.map_eq_some_iff.1 hs
    obtain ⟨result, hd⟩ := hdone task (List.mem_of_getElem? ht)
    rw [hd] at hstage
    cases hstage

/-- A change, a closing and another change of one document that are called at once. -/
def threeTurns : List RegistryAction :=
  let file := Path.ofString "a.ts"
  [.call (.document .changed file), .call (.document .closed file),
    .call (.document .changed file), .resume 0, .resume 1, .resume 2, .read 0 (.ok "x"),
    .deliver 0 0, .spawned 0 (.running false), .deliver 0 0, .sent 0 0 true, .resume 1,
    .deliver 1 0, .sent 1 0 true, .resume 2, .read 2 (.ok "y"), .deliver 2 0, .sent 2 0 true]

theorem calls_in_turn_three :
    oneServer.asked "file:///w/a.ts" threeTurns = [0, 1, 2] ∧
      oneServer.asked "file:///w/a.ts" (oneServer.serial threeTurns) = [0, 1, 2] ∧
      (oneServer.run threeTurns).SameButWaiting (oneServer.run (oneServer.serial threeTurns)) ∧
      (oneServer.run threeTurns).versions.lookup "file:///w/a.ts" = some 1 := by
  have hr : oneServer.Reachable := reachable_oneServer []
  have hn : ∀ task ∈ oneServer.tasks, task.stage.turn? = none := nofun
  obtain ⟨_, _, _, hsame, hversion, _⟩ := calls_in_turn hr hn threeTurns
  have hwrote : oneServer.wrote "file:///w/a.ts" threeTurns =
      [(0, .changed), (1, .closed), (2, .changed)] := by decide
  have hv := (hversion "file:///w/a.ts").1
  rw [hwrote] at hv
  exact ⟨by decide, by decide, hsame, hv⟩

end Registry
end Switchyard
