import Switchyard.Proofs.Registry.Sound

namespace Switchyard

def Task.Before (x y : Task) : Prop := y.call = x.call

theorem Task.Before.refl (x : Task) : x.Before x := rfl

namespace RegistryAction

def task? : RegistryAction → Option Nat
  | .resume t | .read t _ | .deliver t _ | .sent t _ _ | .closed t _ => some t
  | _ => none

end RegistryAction

def TaskStage.Heeds (t : Nat) (action : RegistryAction) : TaskStage → Prop
  | .begun | .locking _ _ _ => action = .resume t
  | .reading _ _ _ => ∃ result, action = .read t result
  | .routing _ _ => (∃ i, action = .deliver t i) ∨ ∃ i accepted, action = .sent t i accepted
  | .closing _ => ∃ h, action = .closed t h
  | .done _ => False

namespace Registry

variable {r r' r'' : Registry} {t u : Nat} {task : Task}

def Advances (t : Nat) (r r' : Registry) : Prop :=
  r'.tasks = r.tasks ∨ ∃ stage, r'.tasks = r.tasks.modify t ({ · with stage })

namespace Advances

theorem of_tasks (h : r'.tasks = r.tasks) : Advances t r r' := .inl h

theorem trans (h : Advances t r r') (h' : Advances t r' r'') : Advances t r r'' := by
  obtain h | ⟨stage, h⟩ := h
  · rw [Advances, ← h]
    exact h'
  · obtain h' | ⟨stage', h'⟩ := h'
    · exact .inr ⟨stage, h'.trans h⟩
    · rw [h, List.modify_modify_eq] at h'
      exact .inr ⟨stage', h'⟩

theorem setStage (h : Advances t r r') (stage : TaskStage) : Advances t r (r'.setStage t stage) :=
  h.trans (.inr ⟨stage, rfl⟩)

theorem finish (h : Advances t r r') : Advances t r (r'.finish t) := by
  unfold Registry.finish
  split
  · split
    · exact (h.trans (.of_tasks (tasks_unlock r' t _))).setStage _
    · exact h
  · exact h

theorem other (h : Advances t r r') (hne : u ≠ t) : r'.tasks[u]? = r.tasks[u]? := by
  obtain h | ⟨stage, h⟩ := h
  · rw [h]
  · rw [h, List.getElem?_modify_ne _ _ hne.symm]

theorem call_kept (h : Advances t r r') :
    Kept Task.Before r.tasks r'.tasks := by
  obtain h | ⟨stage, h⟩ := h
  · rw [h]
    exact .refl .refl _
  · rw [h]
    have hf (x : Task) : x.Before { x with stage } := rfl
    exact .modify .refl hf _ _

end Advances

theorem advances_self (t : Nat) (r : Registry) : Advances t r r := .of_tasks rfl

theorem advances_holdLock (r : Registry) (t : Nat) (event : DocumentEvent) (path : Path)
    (uri : String) : Advances t r (r.holdLock t event path uri) := by
  cases event with
  | closed => exact ((advances_self t (r.dropVersion uri)).setStage _).finish
  | _ => exact (advances_self t r).setStage _

theorem advances_beginDocument (r : Registry) (t : Nat) (event : DocumentEvent) (file : Path) :
    Advances t r (r.beginDocument t event file) := by
  unfold beginDocument
  dsimp only
  split
  · exact (advances_self t r).setStage _
  · rename_i uri _
    split
    · exact advances_holdLock (r.requestLock t uri) t event _ uri
    · exact (advances_self t (r.requestLock t uri)).setStage _

theorem advances_begin (r : Registry) (t : Nat) (call : RegistryCall) :
    Advances t r (r.begin t call) := by
  cases call with
  | document event file => exact advances_beginDocument r t event file
  | watched event file =>
    simp only [begin]
    split
    · exact advances_beginDocument r t event file
    · exact (advances_self t r).setStage _
  | start id =>
    simp only [begin]
    split
    · exact (advances_self t r).setStage _
    · exact (advances_self t r).setStage _
  | route file method params => exact ((advances_self t r).setStage _).finish
  | prewarm dryRun languages =>
    simp only [begin]
    split
    · exact (advances_self t r).setStage _
    · exact ((advances_self t r).setStage _).finish
  | shutdownAll =>
    have h : (r.takeAll).1.tasks = r.tasks := by rw [takeAll_eq]
    exact (Advances.of_tasks h).setStage _

theorem advances_resume (r : Registry) (t : Nat) : Advances t r (r.resume t) := by
  unfold resume
  split
  · exact advances_begin r t _
  · split
    · exact advances_holdLock r t _ _ _
    · exact advances_self t r
  · exact advances_self t r

theorem advances_read (r : Registry) (t : Nat) (result : Except FileError String) :
    Advances t r (r.read t result) := by
  unfold read
  split
  · rename_i uri _
    cases result with
    | error e => exact (Advances.of_tasks (tasks_unlock r t (.closing uri))).setStage _
    | ok text => exact ((advances_self t (r.setVersion uri _)).setStage _).finish
  · exact advances_self t r

theorem advances_deliver (r : Registry) (t d : Nat) : Advances t r (r.deliver t d) := by
  obtain h | ⟨_, _, _, _, _, -, -, -, h⟩ := deliver_cases r t d
  · rw [h]
    exact advances_self t r
  · rw [h]
    exact ((Advances.of_tasks (tasks_advance r _ _ _)).setStage _).finish

theorem advances_endSending (r : Registry) (t d : Nat) (accepted : Bool) :
    Advances t r (r.endSending t d accepted) := by
  obtain h | ⟨_, _, _, _, _, _, -, -, h⟩ := endSending_cases r t d accepted
  · rw [h]
    exact advances_self t r
  · rw [h]
    exact ((Advances.of_tasks (tasks_sent r t _ _ _ accepted)).setStage _).finish

theorem advances_close (r : Registry) (t h : Nat) : Advances t r (r.close t h) := by
  unfold close
  split
  · split
    · exact (Advances.of_tasks (tasks_dispose r h)).setStage _
    · exact advances_self t r
  · exact advances_self t r

@[simp] theorem tasks_exit (r : Registry) (h : Nat) : (r.exit h).tasks = r.tasks := by
  unfold exit
  repeat' split
  all_goals simp [note, modifyEntry]

theorem tasks_spawned (r : Registry) (a : Nat) (outcome : SpawnOutcome) :
    (r.spawned a outcome).tasks = r.tasks := by
  unfold spawned
  split
  · rfl
  split
  · cases outcome with
    | running exited =>
      simp only [install]
      split
      · split
        · rw [tasks_exit]
          rfl
        · rfl
      · exact tasks_dispose _ _
    | _ =>
      simp only [failAttempt]
      split <;> rfl
  · rfl

theorem receive_eq (r : Registry) (h : Nat) (method : String) (params : Option Json) :
    ∃ hub, r.receive h method params = { r with hub } := by
  unfold receive
  repeat' split
  all_goals exact ⟨_, rfl⟩

theorem tasks_step (r : Registry) (action : RegistryAction) :
    (∃ call, action = .call call ∧ (r.step action).tasks = r.tasks ++ [⟨call, .begun⟩]) ∨
      (∃ t, action.task? = some t ∧ Advances t r (r.step action)) ∨
      (action.task? = none ∧ (r.step action).tasks = r.tasks) := by
  cases action with
  | call call => exact .inl ⟨call, rfl, rfl⟩
  | resume t => exact .inr (.inl ⟨t, rfl, advances_resume r t⟩)
  | read t result => exact .inr (.inl ⟨t, rfl, advances_read r t result⟩)
  | deliver t d => exact .inr (.inl ⟨t, rfl, advances_deliver r t d⟩)
  | sent t d accepted => exact .inr (.inl ⟨t, rfl, advances_endSending r t d accepted⟩)
  | spawned a outcome => exact .inr (.inr ⟨rfl, tasks_spawned r a outcome⟩)
  | closed t h => exact .inr (.inl ⟨t, rfl, advances_close r t h⟩)
  | exit h => exact .inr (.inr ⟨rfl, tasks_exit r h⟩)
  | notify h method params =>
    obtain ⟨hub, heq⟩ := receive_eq r h method params
    have htasks : (r.receive h method params).tasks = r.tasks := by rw [heq]
    exact .inr (.inr ⟨rfl, htasks⟩)
  | hub call => exact .inr (.inr ⟨rfl, rfl⟩)

theorem task_step {action : RegistryAction} (ht : r.tasks[t]? = some task)
    (ha : action.task? ≠ some t) : (r.step action).tasks[t]? = some task := by
  obtain ⟨call, _, h⟩ | ⟨u, hu, h⟩ | ⟨_, h⟩ := tasks_step r action
  · rw [h]
    exact getElem?_append_of_some ht
  · have hne : t ≠ u := by
      rintro rfl
      exact ha hu
    rwa [h.other hne]
  · rwa [h]

/-- A task that no action lets go on was there before, or has just been called. -/
theorem task_of_step {action : RegistryAction} (ht : (r.step action).tasks[t]? = some task)
    (ha : action.task? ≠ some t) : r.tasks[t]? = some task ∨ task.stage = .begun := by
  obtain ⟨call, _, h⟩ | ⟨u, hu, h⟩ | ⟨_, h⟩ := tasks_step r action
  · rw [h] at ht
    obtain ⟨_, rfl⟩ | h := getElem?_concat_cases ht
    · exact .inr rfl
    · exact .inl h
  · have hne : t ≠ u := by
      rintro rfl
      exact ha hu
    exact .inl (h.other hne ▸ ht)
  · exact .inl (h ▸ ht)

theorem calls_step (r : Registry) (action : RegistryAction) :
    Kept Task.Before r.tasks (r.step action).tasks := by
  obtain ⟨call, _, h⟩ | ⟨u, _, h⟩ | ⟨_, h⟩ := tasks_step r action
  · rw [h]
    exact .append .refl _ _
  · exact h.call_kept
  · rw [h]
    exact .refl .refl _

theorem deliver_eq {errand : Errand} {ds : List Delivery} {i : Nat} {d : Delivery} {entry : Entry}
    (ht : r.tasks[t]? = some ⟨call, .routing errand ds⟩) (hd : ds[i]? = some d)
    (he : r.entries[d.entry]? = some entry) :
    r.deliver t i =
      (r.advance errand d entry).1.setDelivery t errand ds i (r.advance errand d entry).2 := by
  simp only [deliver, ht, hd, he]

theorem resume_eq_self (hb : ∀ call, r.tasks[t]? ≠ some ⟨call, .begun⟩)
    (hl : ∀ call event path uri, r.tasks[t]? ≠ some ⟨call, .locking event path uri⟩) :
    r.resume t = r := by
  unfold resume
  split
  · rename_i h
    exact absurd h (hb _)
  · rename_i h
    exact absurd h (hl _ _ _ _)
  · rfl

theorem read_eq_self
    (hs : ∀ call event path uri, r.tasks[t]? ≠ some ⟨call, .reading event path uri⟩)
    (result : Except FileError String) : r.read t result = r := by
  unfold read
  split
  · rename_i h
    exact absurd h (hs _ _ _ _)
  · rfl

theorem deliver_eq_self (hs : ∀ call errand ds, r.tasks[t]? ≠ some ⟨call, .routing errand ds⟩)
    (d : Nat) : r.deliver t d = r := by
  obtain h | ⟨_, _, _, _, _, ht, -⟩ := deliver_cases r t d
  · exact h
  · exact absurd ht (hs _ _ _)

theorem endSending_eq_self (hs : ∀ call errand ds, r.tasks[t]? ≠ some ⟨call, .routing errand ds⟩)
    (d : Nat) (accepted : Bool) : r.endSending t d accepted = r := by
  obtain h | ⟨_, _, _, _, _, _, ht, -⟩ := endSending_cases r t d accepted
  · exact h
  · exact absurd ht (hs _ _ _)

theorem close_eq_self (hs : ∀ call handles, r.tasks[t]? ≠ some ⟨call, .closing handles⟩) (h : Nat) :
    r.close t h = r := by
  unfold close
  split
  · rename_i h
    exact absurd h (hs _ _)
  · rfl

theorem step_eq_self {call : RegistryCall} {stage : TaskStage} {action : RegistryAction}
    (ht : r.tasks[t]? = some ⟨call, stage⟩) (ha : action.task? = some t)
    (hn : ¬ stage.Heeds t action) : r.step action = r := by
  cases action with
  | resume u =>
    cases ha
    apply resume_eq_self
    · intro call' h
      cases ht.symm.trans h
      exact hn rfl
    · intro call' event path uri h
      cases ht.symm.trans h
      exact hn rfl
  | read u result =>
    cases ha
    refine read_eq_self (fun call' event path uri h => ?_) result
    cases ht.symm.trans h
    exact hn ⟨result, rfl⟩
  | deliver u i =>
    cases ha
    refine deliver_eq_self (fun call' errand ds h => ?_) i
    cases ht.symm.trans h
    exact hn (.inl ⟨i, rfl⟩)
  | sent u i accepted =>
    cases ha
    refine endSending_eq_self (fun call' errand ds h => ?_) i accepted
    cases ht.symm.trans h
    exact hn (.inr ⟨i, accepted, rfl⟩)
  | closed u h =>
    cases ha
    refine close_eq_self (fun call' handles hc => ?_) h
    cases ht.symm.trans hc
    exact hn ⟨h, rfl⟩
  | _ => cases ha

theorem task_quiet {call : RegistryCall} {stage : TaskStage} {action : RegistryAction}
    (ht : r.tasks[t]? = some ⟨call, stage⟩) (hn : ¬ stage.Heeds t action) :
    (r.step action).tasks[t]? = some ⟨call, stage⟩ := by
  by_cases ha : action.task? = some t
  · rwa [step_eq_self ht ha hn]
  · exact task_step ht ha

end Registry
end Switchyard
