import Switchyard.Proofs.Rpc.Calls
import Switchyard.Proofs.Rpc.Correlation

namespace Switchyard.Rpc

namespace Requests

variable {r r' : Requests}

theorem requestCount_eq (hc : Changes none r r') : requestCount r'.log = requestCount r.log := by
  induction hc with
  | refl => rfl
  | tail _ hc ih =>
    rw [← ih]
    cases hc with
    | @note _ e he =>
      refine requestCount_concat ?_
      rintro k id rfl
      cases he
    | call => rfl
    | cutOff => exact requestCount_concat (e := .cutOff) nofun
    | answer | ignore => exact requestCount_concat (e := .dispatched _) nofun

end Requests

namespace Client

variable {c d : Client} {k id : Nat} {op : Operation} {stage : CallStage} {a : ClientAction}

def log (c : Client) : List ClientEvent := c.history.reverse

theorem log_push (c : Client) (e : ClientEvent) : (c.push e).log = c.log ++ [e] :=
  List.reverse_cons

def begunCount (c : Client) : Nat := c.calls.countP (·.stage.isBegun)

/-- Each call makes one request at most, and not before it goes on. -/
def Counted (c : Client) : Prop := requestCount c.log + c.begunCount ≤ c.calls.length

theorem requestCount_push (c : Client) {e : ClientEvent} (he : ∀ k id : Nat, e ≠ .numbered k id) :
    requestCount (c.push e).log = requestCount c.log := by
  rw [log_push, requestCount_concat he]

theorem requestCount_complete (c : Client) (k : Nat) (result : Except ServerError Unit) :
    requestCount (c.complete k result).log = requestCount c.log :=
  requestCount_push (c.setStage k _) nofun

theorem requestCount_enqueue (c : Client) (frame : Json) :
    requestCount (c.enqueue frame).log = requestCount c.log :=
  requestCount_push { c with queue := c.queue ++ [frame] } nofun

theorem requestCount_conclude (c : Client) (k : Nat) (op : Operation) (id : Nat)
    (outcome : Except RequestError Json) :
    requestCount (c.conclude k op id outcome).log = requestCount c.log := by
  have hp : requestCount (c.push (.settled k id outcome)).log = requestCount c.log :=
    requestCount_push c nofun
  obtain hd | ⟨result, hd⟩ := conclude_cases c k op id outcome <;> rw [hd]
  · exact hp
  · exact (requestCount_complete _ k _).trans hp

theorem Turn.requestCount (h : Turn c k op stage d) :
    requestCount d.log = requestCount c.log ∨
      stage.isBegun = true ∧ requestCount d.log = requestCount c.log + 1 := by
  cases h with
  | unnamed | turnedAway | refuse => exact .inl (requestCount_complete c k _)
  | @number frame =>
    refine .inr ⟨rfl, ?_⟩
    have hl := log_push { c with nextId := (c.nextId + 1) % Nat.pow 2 64 } (.numbered k c.nextId)
    exact (congrArg Rpc.requestCount hl).trans (requestCount_numbered k c.nextId)
  | register id frame => exact .inl (requestCount_push { c with pending := id :: c.pending } nofun)
  | stay | giveUp | proceed | prepare => exact .inl rfl
  | ask id frame => exact .inl (requestCount_enqueue c frame)
  | answer id | cut id => exact .inl (requestCount_conclude c k op id _)
  | late id => exact .inl (requestCount_push c nofun)
  | abandon id e => exact .inl (requestCount_conclude (c.forget id) k op id _)
  | say frame =>
    exact .inl ((requestCount_complete (c.enqueue frame) k _).trans (requestCount_enqueue c frame))

theorem Counted.turn (h : c.Counted) (hk : c.calls[k]? = some ⟨op, stage⟩)
    (ht : Turn c k op stage d) : d.Counted := by
  obtain ⟨stage', hd, rfl | hlt⟩ := ht.call hk
  · exact h
  have hcount : d.begunCount + stage.isBegun.toNat = c.begunCount + stage'.isBegun.toNat :=
    countP_of_update (p := fun call : Call => call.stage.isBegun) hk hd fun j hj => ht.others hj
  have hbegun : stage'.isBegun = false := by
    rw [Bool.eq_false_iff, ne_eq, CallStage.isBegun_iff]
    exact Nat.ne_of_lt (Nat.lt_of_lt_of_le hlt stage.left_le)
  rw [hbegun, Bool.toNat_false, Nat.add_zero] at hcount
  refine Nat.le_trans ?_ (Nat.le_trans h (Nat.le_of_eq ht.length_calls.symm))
  obtain hr | ⟨hb, hr⟩ := ht.requestCount
  · rw [hr]
    exact Nat.add_le_add_left (Nat.le.intro hcount) _
  · rw [hb, Bool.toNat_true] at hcount
    rw [hr, ← hcount]
    exact Nat.le_of_eq (by omega)

theorem Counted.step (h : c.Counted) (a : ClientAction) : (c.step a).Counted := by
  cases ha : a.call? with
  | some k =>
    cases hk : c.calls[k]? with
    | none => rwa [step_of_missing ha hk]
    | some call => exact h.turn hk (turn_step hk ha)
  | none =>
    have hr := requests_step c a
    rw [ha] at hr
    have hcount : requestCount (c.step a).log = requestCount c.log := Requests.requestCount_eq hr
    rw [Counted, hcount]
    obtain hc | ⟨op, hc⟩ := calls_step_of_none ha c
    · rwa [begunCount, hc]
    · rw [begunCount, hc, List.countP_append, List.length_append, ← Nat.add_assoc]
      exact Nat.add_le_add_right h 1

theorem counted_run (h : c.Counted) (actions : List ClientAction) : (c.run actions).Counted := by
  induction actions generalizing c with
  | nil => exact h
  | cons a actions ih => exact ih (h.step a)

theorem requestCount_lt_run (server : String) (processId : Nat) {actions : List ClientAction}
    (hn : ((connect server processId).run actions).calls.length < Nat.pow 2 64) :
    requestCount ((connect server processId).run actions).log < Nat.pow 2 64 := by
  have hfresh : (connect server processId).Counted := Nat.le_refl 0
  have hcounted := counted_run hfresh actions
  exact Nat.lt_of_le_of_lt (Nat.le_trans (Nat.le_add_right _ _) hcounted) hn

theorem correlated_run (server : String) (processId : Nat) {actions : List ClientAction}
    (hn : ((connect server processId).run actions).calls.length < Nat.pow 2 64) :
    Correlated ((connect server processId).run actions).requests :=
  (Correlated.connect server processId).run (requestCount_lt_run server processId hn)

theorem length_calls_le_step (c : Client) (a : ClientAction) :
    c.calls.length ≤ (c.step a).calls.length := by
  cases ha : a.call? with
  | some k =>
    cases hk : c.calls[k]? with
    | none => rw [step_of_missing ha hk]
    | some call => rw [(turn_step hk ha).length_calls]
  | none =>
    obtain hc | ⟨op, hc⟩ := calls_step_of_none ha c
    · rw [hc]
    · rw [hc, List.length_append]
      exact Nat.le_add_right _ _

theorem length_calls_le_run (c : Client) (actions : List ClientAction) :
    c.calls.length ≤ (c.run actions).calls.length := by
  induction actions generalizing c with
  | nil => exact Nat.le_refl _
  | cons a actions ih => exact Nat.le_trans (length_calls_le_step c a) (ih (c.step a))

/-- Whatever else happens, a call is at its end after so many rounds. In a round its time is over,
and when it goes on after that there is room for a frame. -/
def EndsWithin (k : Nat) (op : Operation) : Nat → Client → Prop
  | 0, c => ∃ result, c.calls[k]? = some ⟨op, .done result⟩
  | n + 1, c => ∀ before after : List ClientAction,
    let late := c.run (before ++ .expire k :: after)
    late.isFull = false → EndsWithin k op n (late.step (.resume k))

theorem stage_of_calls {stage' : CallStage} (hk : c.calls[k]? = some ⟨op, stage⟩)
    (hd : d.calls = (c.setStage k stage').calls) : d.calls[k]? = some ⟨op, stage'⟩ :=
  hd ▸ call_setStage hk stage'

theorem calls_takeId (c : Client) (k : Nat) (op : Operation) (method : String)
    (params : Option Json) :
    ∃ stage, stage.left < 7 ∧ (c.takeId k op method params).calls = (c.setStage k stage).calls := by
  unfold takeId
  split <;> exact ⟨_, by simp [CallStage.left], rfl⟩

theorem calls_beginNotification (c : Client) (k : Nat) (op : Operation) :
    ∃ stage, stage.left < 2 ∧ (c.beginNotification k op).calls = (c.setStage k stage).calls := by
  unfold beginNotification
  split <;> exact ⟨_, by simp [CallStage.left], rfl⟩

theorem calls_start (c : Client) (k : Nat) (op : Operation) :
    ∃ stage, stage.left < 7 ∧ (c.start k op).calls = (c.setStage k stage).calls := by
  cases op with
  | notify method params =>
    obtain ⟨stage, hl, hc⟩ := calls_beginNotification c k (.notify method params)
    exact ⟨stage, Nat.lt_trans hl (by decide), hc⟩
  | shutdown => exact calls_takeId c k _ _ _
  | handshake root ms =>
    unfold start
    dsimp only
    split
    · exact ⟨_, by simp [CallStage.left], rfl⟩
    · exact calls_takeId c k _ _ _

/-- A call that has neither to wait for its answer nor for room comes closer to its end. -/
theorem stage_resume (hk : c.calls[k]? = some ⟨op, stage⟩) (hroom : c.isFull = false)
    (hs : stage.left ≠ 0) (hw : stage.left ≠ 3) :
    ∃ stage', (c.resume k).calls[k]? = some ⟨op, stage'⟩ ∧ stage'.left < stage.left := by
  suffices h : ∃ stage', stage'.left < stage.left ∧
      (c.resume k).calls = (c.setStage k stage').calls by
    obtain ⟨stage', hl, hd⟩ := h
    exact ⟨stage', stage_of_calls hk hd, hl⟩
  rw [resume_eq hk]
  cases stage with
  | begun => exact calls_start c k op
  | numbered id frame => exact ⟨.registered id frame, by simp [CallStage.left], rfl⟩
  | registered id frame =>
    dsimp only [checkStopped]
    split <;> exact ⟨_, by simp [CallStage.left], rfl⟩
  | requesting id frame =>
    dsimp only [offerRequest]
    rw [hroom]
    split <;> exact ⟨_, by simp [CallStage.left], rfl⟩
  | waiting id => exact absurd rfl hw
  | abandoning id e => exact ⟨.done _, Nat.zero_lt_one, rfl⟩
  | answered => exact calls_beginNotification c k op
  | notifying frame =>
    dsimp only [offerNotification]
    rw [hroom]
    split <;> exact ⟨.done _, Nat.zero_lt_one, rfl⟩
  | done result => exact absurd rfl hs

theorem stage_expire (hk : c.calls[k]? = some ⟨op, stage⟩) (hw : stage.left = 3) :
    ∃ stage', (c.expire k).calls[k]? = some ⟨op, stage'⟩ ∧ stage'.left ≤ 2 := by
  cases stage with
  | waiting id =>
    have concluded (outcome : Except RequestError Json) : ∃ stage',
        (c.conclude k op id outcome).calls[k]? = some ⟨op, stage'⟩ ∧ stage'.left ≤ 2 := by
      obtain hd | ⟨result, hd⟩ := conclude_cases c k op id outcome <;> rw [hd]
      · exact ⟨.answered, call_setStage (c := c.push _) hk _, Nat.le_refl 2⟩
      · exact ⟨.done result, call_setStage (c := c.push _) hk _, Nat.zero_le 2⟩
    rw [expire, hk]
    dsimp only
    split
    · exact ⟨.abandoning id .timeout, call_setStage (c := c.push _) hk _, Nat.le_succ 1⟩
    · rename_i hp
      rw [awaitAnswer, if_neg hp]
      split <;> exact concluded _
  | _ => cases hw

theorem run_append (c : Client) (first second : List ClientAction) :
    c.run (first ++ second) = (c.run first).run second :=
  List.foldl_append

theorem run_concat (c : Client) (actions : List ClientAction) (a : ClientAction) :
    c.run (actions ++ [a]) = (c.run actions).step a :=
  List.foldl_concat ..

theorem stage_round {n : Nat} (hk : c.calls[k]? = some ⟨op, stage⟩) (hl : stage.left ≤ n + 1)
    {before after : List ClientAction}
    (hroom : (c.run (before ++ .expire k :: after)).isFull = false) :
    ∃ stage', ((c.run (before ++ .expire k :: after)).step (.resume k)).calls[k]? =
      some ⟨op, stage'⟩ ∧ stage'.left ≤ n := by
  obtain ⟨early, hearly, hle⟩ := stage_run hk before
  have hlate : ∃ late, (c.run (before ++ .expire k :: after)).calls[k]? = some ⟨op, late⟩ ∧
      late.left ≤ early.left ∧ (early.left = 3 → late.left ≤ 2) := by
    rw [run_append]
    by_cases hw : early.left = 3
    · obtain ⟨stage', hd, h2⟩ := stage_expire hearly hw
      obtain ⟨late, hlate, hle'⟩ := stage_run hd after
      have hle2 := Nat.le_trans hle' h2
      exact ⟨late, hlate, hw ▸ Nat.le_succ_of_le hle2, fun _ => hle2⟩
    · obtain ⟨late, hlate, hle'⟩ := stage_run hearly (.expire k :: after)
      exact ⟨late, hlate, hle', fun h => absurd h hw⟩
  obtain ⟨late, hd, hle', hw⟩ := hlate
  by_cases hn : late.left ≤ n
  · obtain ⟨stage', hd', hl'⟩ := stage_step hd (.resume k)
    exact ⟨stage', hd', Nat.le_trans hl' hn⟩
  · obtain ⟨stage', hd', hl'⟩ := stage_resume hd hroom (by omega) (by omega)
    exact ⟨stage', hd', by omega⟩

theorem endsWithin_of_left {n : Nat} (hk : c.calls[k]? = some ⟨op, stage⟩) (hl : stage.left ≤ n) :
    c.EndsWithin k op n := by
  induction n generalizing c stage with
  | zero =>
    cases stage with
    | done result => exact ⟨result, hk⟩
    | _ => cases hl
  | succ n ih =>
    intro before after late hroom
    obtain ⟨stage', hd, hl'⟩ := stage_round hk hl hroom
    exact ih hd hl'

end Client
end Switchyard.Rpc
