import Switchyard.Command.Session
import Switchyard.Proofs.Registry.Tasks

namespace Switchyard

namespace Registry

theorem calls_run {r : Registry} {t : Nat} {task : Task} (ht : r.tasks[t]? = some task)
    (actions : List RegistryAction) :
    ∃ stage, (r.run actions).tasks[t]? = some ⟨task.call, stage⟩ := by
  induction actions generalizing r task with
  | nil => exact ⟨task.stage, ht⟩
  | cons action actions ih =>
    obtain ⟨task', ht', hcall⟩ := calls_step r action t task ht
    rw [← hcall]
    exact ih ht'

end Registry

namespace Session

variable {s s' s'' : Session} {h t : Nat}

def Follows (s s' : Session) : Prop := ∃ actions, s'.registry = s.registry.run actions

theorem Follows.refl (s : Session) : s.Follows s := ⟨[], rfl⟩

theorem Follows.trans (h : s.Follows s') (h' : s'.Follows s'') : s.Follows s'' := by
  obtain ⟨first, hfirst⟩ := h
  obtain ⟨second, hsecond⟩ := h'
  refine ⟨first ++ second, ?_⟩
  rw [hsecond, hfirst, Registry.run_append]

theorem follows_of_eq (h : s'.registry = s.registry) : s.Follows s' := ⟨[], h⟩

theorem follows_act (s : Session) (a : RegistryAction) : s.Follows (s.act a) := ⟨[a], rfl⟩

theorem follows_foldl {α : Type} {f : Session → α → Session}
    (hf : ∀ (s : Session) (x : α), s.Follows (f s x)) (s : Session) (l : List α) :
    s.Follows (l.foldl f s) := by
  induction l generalizing s with
  | nil => exact .refl s
  | cons x l ih => exact (hf s x).trans (ih (f s x))

theorem follows_observe (s : Session) (h : Nat) (link : Rpc.Link) :
    s.Follows (s.observe h link) := by
  unfold observe
  dsimp only
  refine (follows_foldl (fun s e => ?_) s _).trans (follows_of_eq rfl)
  split
  · exact follows_act s _
  · exact follows_act s _
  · exact .refl s

theorem follows_settle (s : Session) : s.Follows s.settle := by
  unfold settle
  exact follows_foldl (fun s l => follows_observe s l.1 _) s s.links

theorem follows_startNext (s : Session) : s.Follows s.startNext := by
  unfold startNext
  split
  · exact .refl s
  dsimp only
  have hsettle : s.Follows ({ s with started := s.started + 1 }.settle) :=
    (follows_of_eq rfl).trans (follows_settle _)
  split
  · exact hsettle
  split
  · exact hsettle.trans (follows_act _ _)
  · exact hsettle.trans ((follows_of_eq rfl).trans (follows_act _ _))

theorem follows_tell (s : Session) (h : Nat) (notice : Notice) : s.Follows (s.tell h notice).1 := by
  unfold tell
  split <;> exact follows_of_eq rfl

theorem follows_deliver (t : Nat) (s : Session) (d : Nat) : s.Follows (deliver t s d) := by
  have hstart : s.Follows (((s.act (.deliver t d)).startNext).act (.deliver t d)) :=
    ((follows_act s _).trans (follows_startNext _)).trans (follows_act _ _)
  unfold deliver
  dsimp only
  split
  · split
    · exact (hstart.trans (follows_tell _ _ _)).trans (follows_act _ _)
    · exact hstart
  · exact hstart

theorem follows_close (t : Nat) (s : Session) (h : Nat) : s.Follows (close t s h) := by
  unfold close
  dsimp only
  split
  · exact (follows_of_eq rfl).trans (follows_act _ _)
  · exact follows_act _ _

def readFor (t : Nat) (s : Session) : Session :=
  match s.stage t with
  | .reading _ path _ => s.act (.read t (s.machine.files.readText path))
  | _ => s

def serve (t : Nat) (s : Session) : Session :=
  match s.stage t with
  | .routing _ ds => (List.range ds.length).foldl (deliver t) s
  | .closing handles => handles.foldl (close t) s
  | _ => s

def reply (s : Session) (t : Nat) : Except ServerError RegistryReply :=
  match s.stage t with
  | .done result => result
  | _ => .ok .nothing

theorem call_eq (s : Session) (call : RegistryCall) :
    s.call call =
      let t := s.registry.tasks.length
      let s' := serve t (readFor t ((s.act (.call call)).act (.resume t)))
      (s', s'.reply t) := by
  have hpair (s : Session) (t : Nat) : (match s.stage t with
      | .done result => (s, result)
      | _ => (s, .ok .nothing)) = (s, s.reply t) := by
    unfold reply
    split <;> rfl
  exact hpair _ _

theorem follows_readFor (t : Nat) (s : Session) : s.Follows (readFor t s) := by
  unfold readFor
  split
  · exact follows_act _ _
  · exact .refl s

theorem follows_serve (t : Nat) (s : Session) : s.Follows (serve t s) := by
  unfold serve
  split
  · exact follows_foldl (follows_deliver t) _ _
  · exact follows_foldl (follows_close t) _ _
  · exact .refl s

theorem follows_call (s : Session) (call : RegistryCall) :
    (s.act (.call call)).Follows (s.call call).1 := by
  rw [call_eq]
  exact ((follows_act _ _).trans (follows_readFor _ _)).trans (follows_serve _ _)

theorem task_of_call {call : RegistryCall} {n : Nat} (h : (s.call call).2 = .ok (.count n)) :
    ∃ t : Nat, (s.call call).1.registry.tasks[t]? = some ⟨call, .done (.ok (.count n))⟩ := by
  have hbegun : (s.act (.call call)).registry.tasks[s.registry.tasks.length]? =
      some (Task.mk call .begun) := List.getElem?_concat_length
  obtain ⟨actions, hrun⟩ := follows_call s call
  obtain ⟨stage, ht⟩ := Registry.calls_run hbegun actions
  rw [← hrun] at ht
  have hreply : (s.call call).2 = (s.call call).1.reply s.registry.tasks.length := by
    rw [call_eq]
  have hstage : (s.call call).1.stage s.registry.tasks.length = stage := by
    rw [Session.stage, ht]
    rfl
  rw [hreply, reply, hstage] at h
  cases stage with
  | done result =>
    cases h
    exact ⟨_, ht⟩
  | _ => cases h

end Session
end Switchyard
