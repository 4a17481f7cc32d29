import Switchyard.Proofs.Document.Selector
import Switchyard.Proofs.Registry.Isolation
import Switchyard.Proofs.Registry.Lives
import Switchyard.Proofs.Registry.Unusable

namespace Switchyard

open RegistryEvent

/-- An action by which no call is made and no call goes on but that of a task. -/
def RegistryAction.Spares (t : Nat) (action : RegistryAction) : Prop :=
  action.task? = some t ∨ (action.task? = none ∧ ∀ call, action ≠ .call call)

namespace Registry

variable {r s s' : Registry} {t e a i : Nat} {languages : List String}
variable {action : RegistryAction} {ds : List Delivery}

/-- A server is one for a project of the given languages, and can be started on this machine. -/
def suits (r : Registry) (languages : List String) (entry : Entry) : Bool :=
  entry.config.selector.languages.any languages.contains && r.commandExists entry.config.command

/-- The ids of the servers that have to be started for a project of the given languages. -/
def needed (r : Registry) (languages : List String) : List String :=
  (r.entries.filter fun entry => entry.isIdle && r.suits languages entry).map (·.config.id)

theorem filterMap_positions {α β : Type} (l : List α) (p : α → Bool) (f : α → β) :
    ((List.range l.length).filter fun i => (l[i]?).any p).filterMap (fun i => (l[i]?).map f) =
      (l.filter p).map f := by
  induction l using List.reverseRecOn with
  | nil => rfl
  | append_singleton l x ih =>
    have hbefore {i : Nat} (hi : i ∈ List.range l.length) : (l ++ [x])[i]? = l[i]? :=
      List.getElem?_append_left (List.mem_range.1 hi)
    rw [List.length_append, List.length_singleton, List.range_succ, List.filter_append,
      List.filterMap_append, List.filter_append, List.map_append, ← ih]
    congr 1
    · rw [List.filter_congr fun i hi => by rw [hbefore hi]]
      exact List.filterMap_congr fun i hi => by rw [hbefore (List.mem_of_mem_filter hi)]
    · cases hp : p x <;> simp [hp]

theorem ids_candidates (r : Registry) (languages : List String) :
    (r.candidates languages).filterMap (fun e => (r.entries[e]?).map (·.config.id)) =
      r.needed languages := by
  rw [candidates, entriesWhere, filterMap_positions]
  simp only [needed, suits, Bool.and_assoc]

theorem candidate_iff : e ∈ r.candidates languages ↔
    ∃ entry, r.entries[e]? = some entry ∧ entry.isIdle = true ∧ r.suits languages entry = true := by
  simp [mem_candidates, suits, List.any_eq_true]

theorem mem_needed {entry : Entry} (hr : r.Reachable) (he : r.entries[e]? = some entry) :
    entry.config.id ∈ r.needed languages ↔
      entry.isIdle = true ∧ r.suits languages entry = true := by
  rw [needed, List.mem_map]
  constructor
  · rintro ⟨entry', hm, hid⟩
    obtain ⟨hm, h⟩ := List.mem_filter.1 hm
    obtain ⟨e', he'⟩ := List.mem_iff_getElem?.1 hm
    have heq : e' = e := hr.isEntry_unique (isEntry_iff.2 ⟨entry, he, rfl⟩)
      (isEntry_iff.2 ⟨entry', he', hid⟩)
    subst heq
    cases he.symm.trans he'
    exact Bool.and_eq_true_iff.1 h
  · intro h
    exact ⟨entry, List.mem_filter.2 ⟨List.mem_of_getElem? he, Bool.and_eq_true_iff.2 h⟩, rfl⟩

theorem modify_concat {α : Type} (l : List α) (x : α) (f : α → α) :
    (l ++ [x]).modify l.length f = l ++ [f x] := by
  induction l with
  | nil => rfl
  | cons y l ih => exact congrArg (y :: ·) ih

theorem run_dryRun (r : Registry) (languages : List String) :
    r.run [.call (.prewarm true languages), .resume r.tasks.length] =
      { r with tasks := r.tasks ++
          [⟨.prewarm true languages, .done (.ok (.ids (r.needed languages)))⟩] } := by
  have ht : (r.tasks ++ [⟨.prewarm true languages, .begun⟩])[r.tasks.length]? =
      some ⟨.prewarm true languages, .begun⟩ := List.getElem?_concat_length
  have hids := ids_candidates (r.step (.call (.prewarm true languages))) languages
  simp only [run, List.foldl_cons, List.foldl_nil, step, resume, ht, begin, if_true] at hids ⊢
  rw [hids, setStage, modify_concat]
  rfl

def Deals (r s : Servers) (d : Delivery) : Prop :=
  match d.stage with
  | .begun => r.Unstarted s d.entry
  | .starting a => r.StartedBy s d.entry a
  | .sending _ _ => False
  | .done _ => r.Ended s d.entry

/-- How far a prewarming has come that began with what is needed in `r`. -/
def Warms (r : Registry) (s : Servers) (languages : List String) : TaskStage → Prop
  | .routing errand ds => errand = .start ∧ ds.map (·.entry) = r.candidates languages ∧
    (∀ d ∈ ds, Deals r.servers s d) ∧ ds.all (·.stage.isDone) = false
  | .done result => result = .ok (.ids (r.needed languages)) ∧
    ∀ e ∈ r.candidates languages, r.servers.Ended s e
  | _ => False

/-- A prewarming goes on since `r`, and nothing else is started. -/
structure Prewarming (r s : Registry) (t : Nat) (languages : List String) : Prop where
  reachable : s.Reachable
  before : Servers.Before r.servers s.servers
  commandExists : s.commandExists = r.commandExists
  others {e : Nat} : e ∉ r.candidates languages → r.servers.Unstarted s.servers e
  task : ∃ stage, s.tasks[t]? = some ⟨.prewarm false languages, stage⟩ ∧
    r.Warms s.servers languages stage

theorem ids_before (hb : Servers.Before r.servers s.servers) (es : List Nat) :
    es.filterMap (fun e => (s.entries[e]?).map (·.config.id)) =
      es.filterMap fun e => (r.entries[e]?).map (·.config.id) := by
  have hc (r : Registry) (e : Nat) :
      (r.entries[e]?).map (·.config.id) = (r.servers.configs[e]?).map (·.id) := by
    simp only [servers, List.getElem?_map, Option.map_map]
    rfl
  simp only [hc, hb.configs]

theorem warms_finish (hb : Servers.Before r.servers s.servers)
    (ht : s.tasks[t]? = some ⟨.prewarm false languages, .routing .start ds⟩)
    (hds : ds.map (·.entry) = r.candidates languages) (hd : ∀ d ∈ ds, Deals r.servers s.servers d) :
    ∃ stage, (s.finish t).tasks[t]? = some ⟨.prewarm false languages, stage⟩ ∧
      r.Warms s.servers languages stage := by
  unfold finish
  simp only [ht]
  split
  · rename_i hall
    refine ⟨_, task_setStage (by rwa [tasks_unlock]) _, ?_, fun e he => ?_⟩
    · have hids := ids_before hb (ds.map (·.entry))
      rw [List.filterMap_map] at hids
      simp only [result]
      rw [← ids_candidates, ← hds, ← hids]
      rfl
    · rw [← hds] at he
      obtain ⟨d, hm, rfl⟩ := List.mem_map.1 he
      have hdone := List.all_eq_true.1 hall d hm
      have hdeals := hd d hm
      unfold Deals at hdeals
      split at hdeals
      · rename_i hs
        rw [hs] at hdone
        cases hdone
      · rename_i hs
        rw [hs] at hdone
        cases hdone
      · exact hdeals.elim
      · exact hdeals
  · rename_i hall
    exact ⟨_, ht, rfl, hds, hd, eq_false_of_ne_true hall⟩

theorem commandExists_finish (r : Registry) (t : Nat) :
    (r.finish t).commandExists = r.commandExists := by
  unfold finish unlock
  repeat' split
  all_goals rfl

theorem prewarming_setDelivery {d : Delivery} {stage : DeliveryStage}
    (hr : (s.setDelivery t .start ds i stage).Reachable)
    (hb : Servers.Before r.servers s.servers) (hc : s.commandExists = r.commandExists)
    (hothers : ∀ e, e ∉ r.candidates languages → r.servers.Unstarted s.servers e)
    (ht : s.tasks[t]? = some ⟨.prewarm false languages, .routing .start ds⟩)
    (hds : ds.map (·.entry) = r.candidates languages) (hi : ds[i]? = some d)
    (hd : Deals r.servers s.servers ⟨d.entry, stage⟩)
    (hother : ∀ x ∈ ds, x.entry ≠ d.entry → Deals r.servers s.servers x) :
    r.Prewarming (s.setDelivery t .start ds i stage) t languages := by
  let ds' := ds.modify i ({ · with stage })
  have hset : (s.setStage t (.routing .start ds')).servers = s.servers :=
    servers_setStage (quiet_of_getElem ht rfl) rfl
  have hsame : (s.setDelivery t .start ds i stage).servers = s.servers := by
    rw [setDelivery, servers_finish]
    exact hset
  have hnew : ds'[i]? = some ⟨d.entry, stage⟩ := by simp [ds', hi]
  have hentries : ds'.map (·.entry) = ds.map (·.entry) := map_modify_eq fun _ _ => rfl
  have hnodup : (ds.map (·.entry)).Nodup := by
    rw [hds]
    exact (entriesWhere_sublist r _).nodup List.nodup_range
  have hdeals : ∀ x ∈ ds', Deals r.servers s.servers x := by
    intro x hx
    obtain ⟨j, hj⟩ := List.mem_iff_getElem?.1 hx
    by_cases hji : j = i
    · subst hji
      cases hnew.symm.trans hj
      exact hd
    · have hold : ds[j]? = some x := by
        rw [← hj]
        exact (List.getElem?_modify_ne _ _ (Ne.symm hji)).symm
      refine hother x (List.mem_of_getElem? hold) fun he => hji ?_
      have hlt := (List.getElem?_eq_some_iff.1 hold).1
      refine (List.getElem?_inj (by simpa using hlt) hnodup).1 ?_
      rw [List.getElem?_map, List.getElem?_map, hold, hi]
      exact congrArg some he
  refine ⟨hr, hsame ▸ hb, (commandExists_finish _ t).trans hc, fun he => hsame ▸ hothers _ he, ?_⟩
  rw [hsame]
  have h := warms_finish (s := s.setStage t (.routing .start ds')) (hset ▸ hb) (task_setStage ht _)
    (hentries.trans hds) (hset ▸ hdeals)
  rwa [hset] at h

/-- A delivery has come out, or waits for a start that is under way. -/
def Polled (s : Registry) (stage : DeliveryStage) : Prop :=
  stage.isDone = true ∨ ∃ a, stage = .starting a ∧ s.outcome? a = none

theorem Deals.changes {d : Delivery} {x y : Servers} (hd : Deals r.servers x d)
    (hc : Servers.Changes x y) (hl : y.attempts.length = x.attempts.length) (hi : x.Sound)
    (hq : r.servers.Settled) :
    Deals r.servers y d := by
  unfold Deals at hd ⊢
  split at hd
  · exact Servers.Unstarted.changes hd hc hl hi hq
  · exact Servers.StartedBy.changes hd hc hl hi
  · exact hd.elim
  · exact Servers.Ended.changes hd hc hl hi

theorem Deals.begun_other {d : Delivery} {r s : Servers} (hd : Deals r s d) (slot : Slot)
    (hne : d.entry ≠ e) : Deals r (s.begun e slot) d := by
  unfold Deals at hd ⊢
  split at hd
  · exact Servers.Unstarted.begun_other hd slot hne
  · exact Servers.StartedBy.begun_other hd slot hne
  · exact hd.elim
  · exact Servers.Ended.begun_other hd slot hne

theorem Warms.changes {stage : TaskStage} {x y : Servers} (hw : r.Warms x languages stage)
    (hc : Servers.Changes x y) (hl : y.attempts.length = x.attempts.length) (hi : x.Sound)
    (hq : r.servers.Settled) :
    r.Warms y languages stage := by
  cases stage with
  | routing errand ds =>
    obtain ⟨he, hds, hd, hn⟩ := hw
    exact ⟨he, hds, fun d hm => (hd d hm).changes hc hl hi hq, hn⟩
  | done result => exact ⟨hw.1, fun e hm => (hw.2 e hm).changes hc hl hi⟩
  | _ => exact hw.elim

@[simp] theorem commandExists_dispose (r : Registry) (h : Nat) :
    (r.dispose h).commandExists = r.commandExists := by
  unfold dispose
  repeat' split
  all_goals rfl

@[simp] theorem commandExists_exit (r : Registry) (h : Nat) :
    (r.exit h).commandExists = r.commandExists := by
  unfold exit
  repeat' split
  all_goals simp [note, modifyEntry]

theorem commandExists_install (r : Registry) (a : Nat) (attempt : StartAttempt) (id : String)
    (current exited : Bool) :
    (r.install a attempt id current exited).commandExists = r.commandExists := by
  cases current with
  | false => simp [install, endAttempt]
  | true => cases exited <;> simp [install, endAttempt, modifyEntry]

theorem commandExists_failAttempt (r : Registry) (a : Nat) (attempt : StartAttempt)
    (current : Bool) (error : ServerError) :
    (r.failAttempt a attempt current error).commandExists = r.commandExists := by
  cases current <;> rfl

theorem commandExists_spawned (r : Registry) (a : Nat) (outcome : SpawnOutcome) :
    (r.spawned a outcome).commandExists = r.commandExists := by
  unfold spawned
  split
  · rfl
  split
  · split
    · exact commandExists_install ..
    · exact commandExists_failAttempt ..
    · exact commandExists_failAttempt ..
  · rfl

theorem changes_idle (ha : action.task? = none) (hcall : ∀ call, action ≠ .call call) :
    Servers.Changes r.servers (r.step action).servers ∧
      (r.step action).attempts.length = r.attempts.length ∧
      (r.step action).commandExists = r.commandExists := by
  cases action with
  | call call => exact absurd rfl (hcall call)
  | spawned a outcome =>
    exact ⟨servers_spawned r a outcome, length_attempts_spawned r a outcome,
      commandExists_spawned r a outcome⟩
  | exit h =>
    exact ⟨(servers_exit r h).to_reflTransGen, congrArg List.length (attempts_exit r h),
      commandExists_exit r h⟩
  | notify h method params =>
    obtain ⟨hub, heq⟩ := receive_eq r h method params
    rw [step, heq]
    exact ⟨.refl, rfl, rfl⟩
  | hub call => exact ⟨.refl, rfl, rfl⟩
  | _ => cases ha

theorem Prewarming.idle_step (hp : r.Prewarming s t languages) (ha : action.task? = none)
    (hcall : ∀ call, action ≠ .call call)
    (hq : r.servers.Settled) :
    r.Prewarming (s.step action) t languages := by
  obtain ⟨hc, hl, hcommand⟩ := changes_idle (r := s) ha hcall
  have hi := hp.reachable.sound
  refine ⟨hp.reachable.step action, hp.before.trans (servers_steps s action).before,
    hcommand.trans hp.commandExists, fun he => (hp.others he).changes hc hl hi hq, ?_⟩
  obtain ⟨stage, ht, hw⟩ := hp.task
  exact ⟨stage, task_step ht (by simp [ha]), hw.changes hc hl hi hq⟩

theorem servers_begun {entry : Entry} (he : r.entries[e]? = some entry) :
    (r.beginAttempt e entry).servers = r.servers.begun e entry.slot := by
  let attempts := r.attempts ++ [⟨e, entry.slot.generation + 1, none⟩]
  have he' : { r with attempts }.entries[e]? = some entry := he
  unfold beginAttempt
  rw [servers_note rfl, servers_modifyEntry_eq he']
  · rfl
  · exact fun _ => rfl

/-- What a delivery does that has a server started: it begins a start of it if it has not done so,
or finds what its start has come to. -/
theorem Deals.advance {d : Delivery} {entry : Entry} (hd : Deals r.servers s.servers d)
    (hm : d.entry ∈ r.candidates languages) (he : s.entries[d.entry]? = some entry) :
    ((s.advance .start d entry).1 = s ∧ s.Polled (s.advance .start d entry).2 ∧
        Deals r.servers s.servers ⟨d.entry, (s.advance .start d entry).2⟩) ∨
      (r.servers.Unstarted s.servers d.entry ∧ entry.slot.unusable = false ∧
        entry.slot.state = .notStarted ∧
        s.advance .start d entry =
          (s.beginAttempt d.entry entry, .starting s.attempts.length)) := by
  obtain ⟨e, stage⟩ := d
  cases stage with
  | begun =>
    obtain ⟨x, hx, hidle, -⟩ := candidate_iff.1 hm
    simp only [Entry.isIdle, Bool.and_eq_true, Bool.not_eq_true', beq_iff_eq] at hidle
    have hslot : entry.slot = x.slot := by
      obtain h | ⟨slot, h, hold, hst, -⟩ := Servers.Unstarted.slot hd
      · rw [slot_of_entry he, slot_of_entry hx] at h
        exact Option.some.inj h
      · cases (slot_of_entry hx).symm.trans hold
        cases hidle.2.symm.trans hst
    refine .inr ⟨hd, hslot ▸ hidle.1, hslot ▸ hidle.2, ?_⟩
    simp [Registry.advance, seek, hslot, hidle]
  | starting a =>
    refine .inl ?_
    simp only [Registry.advance]
    cases ho : (s.attempts[a]?).bind (·.outcome) with
    | none => exact ⟨rfl, .inr ⟨a, rfl, ho⟩, hd⟩
    | some outcome =>
      obtain ⟨attempt, ha, ho⟩ := Option.bind_eq_some_iff.1 ho
      have hended : r.servers.Ended s.servers e := ⟨a, attempt, outcome, hd, ha, ho⟩
      cases outcome with
      | ok h => exact ⟨rfl, .inl rfl, hended⟩
      | error error => exact ⟨rfl, .inl rfl, hended⟩
  | sending h notice => exact hd.elim
  | done outcome => exact .inl ⟨rfl, .inl rfl, hd⟩

theorem Prewarming.entry (hp : r.Prewarming s t languages) (hm : e ∈ r.candidates languages) :
    ∃ entry, s.entries[e]? = some entry := by
  obtain ⟨x, hx, -⟩ := candidate_iff.1 hm
  have hlt := (List.getElem?_eq_some_iff.1 hx).1
  rw [← length_entries_before hp.before] at hlt
  exact ⟨_, List.getElem?_eq_getElem hlt⟩

theorem Prewarming.deliver (hp : r.Prewarming s t languages) (i : Nat) :
    r.Prewarming (s.step (.deliver t i)) t languages := by
  obtain ⟨stage, ht, hw⟩ := hp.task
  have hself (h : s.deliver t i = s) : r.Prewarming (s.step (.deliver t i)) t languages := by
    rwa [step, h]
  cases stage with
  | done result =>
    exact hself (deliver_eq_self (fun call errand ds h => by cases ht.symm.trans h) i)
  | routing errand ds =>
    obtain ⟨rfl, hds, hd, -⟩ := hw
    cases hi : ds[i]? with
    | none => exact hself (by simp [Registry.deliver, ht, hi])
    | some d =>
      cases he : s.entries[d.entry]? with
      | none => exact hself (by simp [Registry.deliver, ht, hi, he])
      | some entry =>
        have hstep : s.step (.deliver t i) = (s.advance .start d entry).1.setDelivery t .start ds i
            (s.advance .start d entry).2 := deliver_eq ht hi he
        have hm : d.entry ∈ r.candidates languages := by
          rw [← hds]
          exact List.mem_map_of_mem (List.mem_of_getElem? hi)
        have hr := hp.reachable.step (.deliver t i)
        rw [hstep] at hr ⊢
        obtain ⟨heq, -, hdeals⟩ | ⟨hu, husable, hn, heq⟩ :=
          (hd d (List.mem_of_getElem? hi)).advance hm he
        · rw [heq] at hr ⊢
          exact prewarming_setDelivery hr hp.before hp.commandExists (fun _ => hp.others) ht hds hi
            hdeals fun x hx _ => hd x hx
        · rw [heq] at hr ⊢
          have hservers := servers_begun he
          have hb := hp.before.trans (servers_beginAttempt he husable hn).before
          have hle := hp.before.attempts.length_le
          refine prewarming_setDelivery hr hb hp.commandExists (fun e' he' => ?_) ht hds hi ?_ ?_
          · have hne : e' ≠ d.entry := fun h => he' (h ▸ hm)
            exact hservers ▸ (hp.others he').begun_other entry.slot hne
          · exact hservers ▸ hu.begin hle (slot_of_entry he) husable
          · exact fun x hx hne => hservers ▸ (hd x hx).begun_other entry.slot hne
  | _ => exact hw.elim

theorem Prewarming.own_step (hp : r.Prewarming s t languages) (ha : action.task? = some t) :
    r.Prewarming (s.step action) t languages := by
  obtain ⟨stage, ht, hw⟩ := hp.task
  have hself (h : s.step action = s) : r.Prewarming (s.step action) t languages := by rwa [h]
  cases stage with
  | done result => exact hself (step_eq_self ht ha id)
  | routing errand ds =>
    obtain ⟨rfl, -, hd, -⟩ := hw
    by_cases hh : (TaskStage.routing .start ds).Heeds t action
    · obtain ⟨i, rfl⟩ | ⟨i, accepted, rfl⟩ := hh
      · exact hp.deliver i
      · refine hself ?_
        simp only [step, endSending, ht]
        split
        · rename_i e h notice hi
          exact (hd _ (List.mem_of_getElem? hi)).elim
        · rfl
    · exact hself (step_eq_self ht ha hh)
  | _ => exact hw.elim

theorem Prewarming.run {actions : List RegistryAction} (hp : r.Prewarming s t languages)
    (hq : r.servers.Settled) (hspares : ∀ action ∈ actions, action.Spares t) :
    r.Prewarming (s.run actions) t languages := by
  induction actions generalizing s with
  | nil => exact hp
  | cons action actions ih =>
    refine ih ?_ fun action' h => hspares action' (List.mem_cons_of_mem action h)
    obtain ha | ⟨ha, hcall⟩ := hspares action List.mem_cons_self
    · exact hp.own_step ha
    · exact hp.idle_step ha hcall hq

theorem prewarming_begins (hr : r.Reachable) (languages : List String) :
    r.Prewarming (r.run [.call (.prewarm false languages), .resume r.tasks.length])
      r.tasks.length languages := by
  let t := r.tasks.length
  let s := r.step (.call (.prewarm false languages))
  have ht : s.tasks[t]? = some ⟨.prewarm false languages, .begun⟩ := List.getElem?_concat_length
  have hstep : r.run [.call (.prewarm false languages), .resume t] =
      (s.routeTo t .start (r.candidates languages)).finish t := by
    show s.resume t = _
    rw [resume, ht]
    rfl
  have hroute : (s.routeTo t .start (r.candidates languages)).servers = s.servers :=
    servers_routeTo (quiet_of_getElem ht rfl) _ _
  have hcall : Servers.Change r.servers s.servers := by
    have h : s.servers = { r.servers with closing := r.servers.closing ++ [[]] } := by
      simp [s, step, servers, TaskStage.closingHandles]
    rw [h]
    exact .call
  have hunstarted (e : Nat) : r.servers.Unstarted s.servers e :=
    (Servers.Unstarted.refl r.servers e).of_slot (hcall.noStart rfl e) rfl
  rw [hstep]
  refine ⟨hstep ▸ hr.run _, ?_, commandExists_finish _ t, fun _ => ?_, ?_⟩
  · rw [servers_finish, hroute]
    exact hcall.before
  · rw [servers_finish, hroute]
    exact hunstarted _
  · have h := warms_finish (s := s.routeTo t .start (r.candidates languages))
      (hroute ▸ hcall.before) (task_setStage ht _) ?_ (fun d hd => ?_)
    · rwa [servers_finish]
    · rw [List.map_map]
      exact List.map_id'' (fun _ => rfl) _
    · obtain ⟨e, -, rfl⟩ := List.mem_map.1 hd
      rw [hroute]
      exact hunstarted e

theorem needed_of_candidate {entry : Entry} (hr : r.Reachable) (he : r.entries[e]? = some entry) :
    entry.config.id ∈ r.needed languages ↔ e ∈ r.candidates languages := by
  rw [mem_needed hr he, candidate_iff]
  exact ⟨fun h => ⟨entry, he, h⟩, fun ⟨x, hx, h⟩ => by
    cases he.symm.trans hx
    exact h⟩

theorem spawns_eq_zero {id : String} (h : ∀ e, r.isEntry id e = false) : r.spawns id = 0 := by
  refine List.countP_eq_zero.2 fun event _ => ?_
  cases event <;> simp [isSpawnOf, h]

/-- Once a prewarming has come to an end each server that was needed has been started once since,
and no other one has. -/
theorem Prewarming.spawns (hp : r.Prewarming s t languages) (hr : r.Reachable)
    (hended : ∀ e ∈ r.candidates languages, r.servers.Ended s.servers e) (id : String) :
    s.spawns id = r.spawns id + if id ∈ r.needed languages then 1 else 0 := by
  have hsame (e : Nat) : s.isEntry id e = r.isEntry id e := isEntry_before hp.before id e
  by_cases h : ∃ e, r.isEntry id e = true
  · obtain ⟨e, hid⟩ := h
    rw [← hr.spawns_eq hid, ← hp.reachable.spawns_eq ((hsame e).trans hid)]
    obtain ⟨entry, he, rfl⟩ := isEntry_iff.1 hid
    have hiff : _ ↔ e ∈ r.candidates languages := needed_of_candidate hr he
    by_cases hm : e ∈ r.candidates languages
    · obtain ⟨a, _, _, hb, _⟩ := hended e hm
      rw [if_pos (hiff.2 hm)]
      exact hb.spawns
    · rw [if_neg fun hid => hm (hiff.1 hid)]
      exact (hp.others hm).spawns
  · have hnone (e : Nat) : r.isEntry id e = false := eq_false_of_ne_true fun hid => h ⟨e, hid⟩
    have hn : id ∉ r.needed languages := by
      intro hm
      obtain ⟨entry, hentry, rfl⟩ := List.mem_map.1 hm
      obtain ⟨e, he⟩ := List.mem_iff_getElem?.1 (List.mem_of_mem_filter hentry)
      exact h ⟨e, isEntry_iff.2 ⟨entry, he, rfl⟩⟩
    rw [spawns_eq_zero hnone, spawns_eq_zero fun e => (hsame e).trans (hnone e), if_neg hn]

theorem Prewarming.not_underWay (hp : r.Prewarming s t languages) (hq : r.servers.Settled)
    (hended : ∀ e ∈ r.candidates languages, r.servers.Ended s.servers e) (e a : Nat) :
    ¬ s.UnderWay e a := by
  intro hu
  obtain ⟨entry, he, hst, -⟩ := hu.slot hp.reachable
  have hslot := slot_of_entry he
  by_cases hm : e ∈ r.candidates languages
  · obtain ⟨a', attempt, outcome, hb, ha', ho⟩ := hended e hm
    obtain ⟨slot, outcome', hs, hattempt, hcame⟩ := hb.slot
    cases hslot.symm.trans hs
    obtain ⟨-, rfl⟩ := hcame.of_starting hst
    cases ha'.symm.trans hattempt
    cases ho
  · obtain h | ⟨slot, h, -, -, hleft, -⟩ := (hp.others hm).slot
    · exact hq e _ a (h.symm.trans hslot) hst
    · have hnew := Option.some.inj (hleft.symm.trans hslot)
      rw [← hnew] at hst
      cases hst

/-- A start of an entry since then has failed in a way that can be tried again, or the server that
it came to has exited. -/
def FreedSince (r s : Registry) (e : Nat) : Prop :=
  ∃ a attempt, r.attempts.length ≤ a ∧ s.attempts[a]? = some attempt ∧ attempt.entry = e ∧
    ((∃ error, attempt.outcome = some (.error error) ∧ error.isRetryable = true) ∨
      ∃ h, attempt.outcome = some (.ok h) ∧ .exited h ∈ s.history)

def LostSince (r s : Registry) (e : Nat) : Prop := ∃ h, r.Installed e h ∧ .exited h ∈ s.history

theorem isIdle_iff {entry : Entry} : entry.isIdle = true ↔
    entry.slot.unusable = false ∧ entry.slot.state = .notStarted := by
  simp [Entry.isIdle]

theorem Reachable.not_exited {entry : Entry} {h : Nat} (hr : r.Reachable)
    (he : r.entries[e]? = some entry) (hst : entry.slot.state = .started h) :
    .exited h ∉ r.history := by
  rw [← mem_events rfl]
  exact hr.endsExited.not_exited hr.sound hr.recorded (slot_of_entry he) hst

theorem Prewarming.idle_iff {entry : Entry} (hp : r.Prewarming s t languages)
    (hended : r.servers.Ended s.servers e) (he : s.entries[e]? = some entry) :
    entry.isIdle = true ↔ r.FreedSince s e := by
  obtain ⟨a, attempt, outcome, hb, ha, ho⟩ := hended
  obtain ⟨slot, outcome', hs, hattempt, hcame⟩ := hb.slot
  cases (slot_of_entry he).symm.trans hs
  cases ha.symm.trans hattempt
  cases ho
  rw [isIdle_iff]
  constructor
  · rintro ⟨hu, hn⟩
    refine ⟨a, _, hb.new, ha, rfl, ?_⟩
    match outcome, hcame with
    | .error error, ⟨_, h⟩ =>
      refine .inl ⟨error, rfl, ?_⟩
      simpa [hu] using h
    | .ok h, ⟨_, .inl hst⟩ => cases hn.symm.trans hst
    | .ok h, ⟨_, .inr ⟨_, hm⟩⟩ => exact .inr ⟨h, rfl, (mem_events rfl).1 hm⟩
  · rintro ⟨a', attempt', hle, ha', hentry, h⟩
    cases hb.only ha' hle hentry
    cases ha.symm.trans ha'
    obtain ⟨error, herror, hretry⟩ | ⟨h, hok, hm⟩ := h
    · cases herror
      exact ⟨by simpa [hretry] using hcame.2, hcame.1⟩
    · cases hok
      obtain ⟨hu, hst | ⟨hn, -⟩⟩ := hcame
      · exact absurd hm (hp.reachable.not_exited he hst)
      · exact ⟨hu, hn⟩

theorem Prewarming.idle_other {entry old : Entry} (hp : r.Prewarming s t languages)
    (hr : r.Reachable) (hu : r.servers.Unstarted s.servers e) (hold : r.entries[e]? = some old)
    (he : s.entries[e]? = some entry) :
    entry.isIdle = true ↔ old.isIdle = true ∨ r.LostSince s e := by
  have hslot := slot_of_entry he
  have holdslot := slot_of_entry hold
  rw [isIdle_iff, isIdle_iff]
  obtain h | ⟨slot, h, hs, hst, hleft, hm⟩ := hu.slot
  · rw [hslot, holdslot, Option.some.injEq] at h
    rw [h, or_iff_left]
    rintro ⟨i, ⟨x, hx, hi⟩, hm⟩
    cases hold.symm.trans hx
    exact hp.reachable.not_exited he (h ▸ hi) hm
  · cases holdslot.symm.trans hs
    have hnew : entry.slot = { old.slot with state := .notStarted } :=
      Option.some.inj (hslot.symm.trans hleft)
    have hi : r.Installed e h := ⟨old, hold, hst⟩
    obtain ⟨x, hx, -, husable⟩ := hi.usable hr
    cases hold.symm.trans hx
    rw [hnew]
    exact iff_of_true ⟨husable, rfl⟩ (.inr ⟨h, hi, (mem_events rfl).1 hm⟩)

theorem Prewarming.needed_iff {entry : Entry} (hp : r.Prewarming s t languages) (hr : r.Reachable)
    (hended : ∀ e ∈ r.candidates languages, r.servers.Ended s.servers e)
    (he : r.entries[e]? = some entry) :
    entry.config.id ∈ s.needed languages ↔
      (entry.config.id ∈ r.needed languages ∧ r.FreedSince s e) ∨
        (r.suits languages entry = true ∧ r.LostSince s e) := by
  have hconfig : (s.entries.map (·.config))[e]? = (r.entries.map (·.config))[e]? :=
    congrArg (·[e]?) hp.before.configs
  rw [List.getElem?_map, List.getElem?_map, he] at hconfig
  obtain ⟨x, hx, hsame : x.config = entry.config⟩ := Option.map_eq_some_iff.1 hconfig
  have hsuits : s.suits languages x = r.suits languages entry := by
    rw [suits, suits, hp.commandExists, hsame]
  rw [← hsame, mem_needed hp.reachable hx, hsame, mem_needed hr he, hsuits]
  by_cases hm : e ∈ r.candidates languages
  · obtain ⟨old, hold, hidle, hsuit⟩ := candidate_iff.1 hm
    cases he.symm.trans hold
    have hlost : ¬ r.LostSince s e := by
      rintro ⟨h, ⟨y, hy, hst⟩, -⟩
      cases he.symm.trans hy
      cases (isIdle_iff.1 hidle).2.symm.trans hst
    simp [hp.idle_iff (hended e hm) hx, hidle, hsuit, hlost]
  · have hn : ¬ (entry.isIdle = true ∧ r.suits languages entry = true) :=
      fun h => hm (candidate_iff.2 ⟨entry, he, h⟩)
    rw [hp.idle_other hr (hp.others hm) he hx]
    tauto

theorem Prewarming.poll {d : Delivery} (hp : r.Prewarming s t languages)
    (ht : s.tasks[t]? = some ⟨.prewarm false languages, .routing .start ds⟩)
    (hi : ds[i]? = some d) :
    (∃ result, (s.step (.deliver t i)).tasks[t]? =
        some ⟨.prewarm false languages, .done result⟩) ∨
      ∃ ds', (s.step (.deliver t i)).tasks[t]? =
          some ⟨.prewarm false languages, .routing .start ds'⟩ ∧
        (∃ d', ds'[i]? = some d' ∧ (s.step (.deliver t i)).Polled d'.stage) ∧
        ∀ j d', j ≠ i → ds[j]? = some d' → s.Polled d'.stage →
          ds'[j]? = some d' ∧ (s.step (.deliver t i)).Polled d'.stage := by
  obtain ⟨stage, ht', hw⟩ := hp.task
  cases ht.symm.trans ht'
  obtain ⟨-, hds, hd, -⟩ := hw
  have hm : d.entry ∈ r.candidates languages := by
    rw [← hds]
    exact List.mem_map_of_mem (List.mem_of_getElem? hi)
  obtain ⟨entry, he⟩ := hp.entry hm
  have hstep : s.step (.deliver t i) = (s.advance .start d entry).1.setDelivery t .start ds i
      (s.advance .start d entry).2 := deliver_eq ht hi he
  have hsame (x : Registry) (stage : DeliveryStage) (a : Nat) :
      (x.setDelivery t .start ds i stage).outcome? a = x.outcome? a := by
    rw [outcome?, setDelivery, attempts_finish]
    rfl
  have hbegin (a : Nat) : (s.beginAttempt d.entry entry).outcome? a = s.outcome? a := by
    show ((s.attempts ++ [_])[a]?).bind _ = (s.attempts[a]?).bind _
    rw [List.getElem?_append]
    split
    · rfl
    · rename_i hlt
      rw [List.getElem?_eq_none (Nat.le_of_not_lt hlt)]
      cases a - s.attempts.length <;> rfl
  have hadvance : s.Polled (s.advance .start d entry).2 ∧
      (s.advance .start d entry).1.tasks[t]? =
        some ⟨.prewarm false languages, .routing .start ds⟩ ∧
      ∀ a, (s.advance .start d entry).1.outcome? a = s.outcome? a := by
    obtain ⟨heq, hpolled, -⟩ | ⟨-, -, -, heq⟩ := (hd d (List.mem_of_getElem? hi)).advance hm he
    · rw [heq]
      exact ⟨hpolled, ht, fun _ => rfl⟩
    · rw [heq]
      have hnew : s.outcome? s.attempts.length = none := by
        rw [outcome?, List.getElem?_eq_none (Nat.le_refl _)]
        rfl
      exact ⟨.inr ⟨_, rfl, hnew⟩, ht, hbegin⟩
  obtain ⟨hpolled, ht₁, houtcome⟩ := hadvance
  have hkept {stage : DeliveryStage} (h : s.Polled stage) :
      (s.step (.deliver t i)).Polled stage := by
    obtain h | ⟨a, rfl, ha⟩ := h
    · exact .inl h
    · exact .inr ⟨a, rfl, by rw [hstep, hsame, houtcome, ha]⟩
  obtain ⟨ds', hnew, hothers, -, ⟨-, h⟩ | ⟨-, h⟩⟩ :=
    task_setDelivery .start (s.advance .start d entry).2 ht₁ hi
  · rw [← hstep] at h
    exact .inr ⟨ds', h, ⟨_, hnew, hkept hpolled⟩,
      fun j d' hj hd' hp' => ⟨(hothers j hj).trans hd', hkept hp'⟩⟩
  · rw [← hstep] at h
    exact .inl ⟨_, h⟩

theorem Prewarming.polled_before (hp : r.Prewarming s t languages) {k : Nat}
    (hk : k ≤ (r.candidates languages).length) :
    let polls := (List.range k).map (RegistryAction.deliver t)
    r.Prewarming (s.run polls) t languages ∧
      ((∃ result, (s.run polls).tasks[t]? = some ⟨.prewarm false languages, .done result⟩) ∨
        ∃ ds, (s.run polls).tasks[t]? = some ⟨.prewarm false languages, .routing .start ds⟩ ∧
          ∀ j < k, ∃ d, ds[j]? = some d ∧ (s.run polls).Polled d.stage) := by
  induction k with
  | zero =>
    refine ⟨hp, ?_⟩
    obtain ⟨stage, ht, hw⟩ := hp.task
    cases stage with
    | done result => exact .inl ⟨result, ht⟩
    | routing errand ds =>
      cases hw.1
      exact .inr ⟨ds, ht, nofun⟩
    | _ => exact hw.elim
  | succ k ih =>
    obtain ⟨hp, h⟩ := ih (Nat.le_of_succ_le hk)
    have hlast (x : Registry) :
        x.run ([k].map (RegistryAction.deliver t)) = x.step (.deliver t k) :=
      rfl
    simp only [List.range_succ, List.map_append, run_append, hlast]
    refine ⟨hp.deliver k, ?_⟩
    obtain ⟨result, ht⟩ | ⟨ds, ht, hpolled⟩ := h
    · exact .inl ⟨result, done_step ht rfl⟩
    · obtain ⟨stage, ht', hw⟩ := hp.task
      cases ht.symm.trans ht'
      have hlength : k < ds.length := by
        have hl := congrArg List.length hw.2.1
        rw [List.length_map] at hl
        omega
      obtain h | ⟨ds', hnew, hthis, hothers⟩ := hp.poll ht (List.getElem?_eq_getElem hlength)
      · exact .inl h
      · refine .inr ⟨ds', hnew, fun j hj => ?_⟩
        obtain rfl | hne := eq_or_ne j k
        · exact hthis
        · obtain ⟨d, hd, hd'⟩ := hpolled j (by omega)
          exact ⟨d, hothers j d hne hd hd'⟩

/-- A prewarming whose deliveries have all been polled has come to an end, unless a start is under
way. -/
theorem Prewarming.polled (hp : r.Prewarming s t languages) :
    let polls := (List.range (r.candidates languages).length).map (RegistryAction.deliver t)
    (∃ result, (s.run polls).tasks[t]? = some ⟨.prewarm false languages, .done result⟩) ∨
      ∃ e a, (s.run polls).UnderWay e a := by
  intro polls
  obtain ⟨hp, h | ⟨ds, ht, hpolled⟩⟩ := hp.polled_before (Nat.le_refl _)
  · exact .inl h
  · obtain ⟨stage, ht', hw⟩ := hp.task
    cases ht.symm.trans ht'
    obtain ⟨-, hds, hd, hn⟩ := hw
    obtain ⟨d, hm, hdone⟩ := List.all_eq_false.1 hn
    obtain ⟨j, hj⟩ := List.mem_iff_getElem?.1 hm
    have hlt : j < (r.candidates languages).length := by
      rw [← hds, List.length_map]
      exact (List.getElem?_eq_some_iff.1 hj).1
    obtain ⟨d', hj', h | ⟨a, hstage, ho⟩⟩ := hpolled j hlt
    · cases hj.symm.trans hj'
      exact absurd h hdone
    · cases hj.symm.trans hj'
      have hdeals := hd d hm
      rw [Deals, hstage] at hdeals
      obtain ⟨slot, outcome, hs, ha, -⟩ := hdeals.slot
      simp only [servers, List.getElem?_map] at hs
      obtain ⟨entry, he, rfl⟩ := Option.map_eq_some_iff.1 hs
      have ha' : (s.run polls).attempts[a]? = some ⟨d.entry, entry.slot.generation, outcome⟩ := ha
      have hnone : outcome = none := by
        rw [outcome?, ha'] at ho
        exact ho
      exact .inr ⟨d.entry, a, entry, he, hnone ▸ ha'⟩

/-- A prewarming names what was needed when it began, whether it starts that or not. -/
theorem prewarm_result {dryRun : Bool} {actions : List RegistryAction}
    {result : Except ServerError RegistryReply} (hr : r.Reachable) (hq : r.servers.Settled)
    (hspares : ∀ action ∈ actions, action.Spares r.tasks.length)
    (ht : (r.run (.call (.prewarm dryRun languages) :: .resume r.tasks.length ::
      actions)).tasks[r.tasks.length]? = some ⟨.prewarm dryRun languages, .done result⟩) :
    result = .ok (.ids (r.needed languages)) := by
  have happend : .call (.prewarm dryRun languages) :: .resume r.tasks.length :: actions =
      [.call (.prewarm dryRun languages), .resume r.tasks.length] ++ actions := rfl
  rw [happend, run_append] at ht
  cases dryRun with
  | true =>
    rw [run_dryRun] at ht
    simpa using ht.symm.trans (done_run List.getElem?_concat_length rfl actions)
  | false =>
    obtain ⟨stage, ht', hw⟩ := ((prewarming_begins hr languages).run hq hspares).task
    cases ht.symm.trans ht'
    exact hw.1

/-- A dry run names the servers that a project needs and that can be started, in their order, and
changes nothing. Otherwise each of them is started once, and no other one, and the same are named
once all these starts have come out; until then, as long as the call has not ended, polling its
deliveries leaves a start under way. Another prewarming then names those of them whose start has
failed in a way that can be tried again or whose server has exited, and besides them the ones that
had a server before the first prewarming, which has exited since. -/
theorem prewarm_as_named (hr : r.Reachable) (hq : ∀ e a, ¬ r.UnderWay e a)
    (languages : List String) :
    let t := r.tasks.length
    r.run [.call (.prewarm true languages), .resume t] =
      { r with tasks := r.tasks ++
          [⟨.prewarm true languages, .done (.ok (.ids (r.needed languages)))⟩] } ∧
    ∀ actions : List RegistryAction, (∀ action ∈ actions, action.Spares t) →
      let s := r.run (.call (.prewarm false languages) :: .resume t :: actions)
      let polls := (List.range (r.candidates languages).length).map (RegistryAction.deliver t)
      (∀ result, s.tasks[t]? = some ⟨.prewarm false languages, .done result⟩ →
        result = .ok (.ids (r.needed languages)) ∧
        (∀ id, s.spawns id = r.spawns id + if id ∈ r.needed languages then 1 else 0) ∧
        (∀ dryRun more result', (∀ action ∈ more, action.Spares s.tasks.length) →
          (s.run (.call (.prewarm dryRun languages) :: .resume s.tasks.length ::
            more)).tasks[s.tasks.length]? = some ⟨.prewarm dryRun languages, .done result'⟩ →
          result' = .ok (.ids (s.needed languages))) ∧
        ∀ e entry, r.entries[e]? = some entry →
          (entry.config.id ∈ s.needed languages ↔
            (entry.config.id ∈ r.needed languages ∧ r.FreedSince s e) ∨
              (r.suits languages entry = true ∧ r.LostSince s e))) ∧
      ((∃ result, (s.run polls).tasks[t]? = some ⟨.prewarm false languages, .done result⟩) ∨
        ∃ e a, (s.run polls).UnderWay e a) := by
  intro t
  refine ⟨run_dryRun r languages, fun actions hspares => ?_⟩
  intro s polls
  have hsettled := hr.settled hq
  have hp : r.Prewarming s t languages := (prewarming_begins hr languages).run hsettled hspares
  refine ⟨fun result ht => ?_, hp.polled⟩
  obtain ⟨stage, ht', hw⟩ := hp.task
  cases ht.symm.trans ht'
  obtain ⟨hresult, hended⟩ := hw
  refine ⟨hresult, hp.spawns hr hended, fun dryRun more result' hmore hdone => ?_,
    fun e entry he => hp.needed_iff hr hended he⟩
  exact prewarm_result hp.reachable (hp.reachable.settled (hp.not_underWay hsettled hended)) hmore
    hdone

def firstStarted : Registry :=
  twoServers.run
    [.call (.start "ts"), .resume 0, .deliver 0 0, .spawned 0 (.running false), .deliver 0 0]

/-- The second one is started for a project, and the first one exits. -/
def firstLost : Registry :=
  firstStarted.run [.call (.prewarm false ["typescript"]), .resume 1, .deliver 1 0,
    .spawned 1 (.running false), .deliver 1 0, .exit 0]

theorem not_underWay_firstStarted (e a : Nat) : ¬ firstStarted.UnderWay e a := by
  rintro ⟨entry, -, ha⟩
  have hm := List.mem_of_getElem? ha
  rw [show firstStarted.attempts = [⟨0, 1, some (.ok 0)⟩] from rfl] at hm
  simp at hm

theorem prewarm_as_named_firstLost :
    (∀ e a, ¬ firstStarted.UnderWay e a) ∧
      firstLost.spawns "lint" = firstStarted.spawns "lint" + 1 ∧
      firstLost.spawns "ts" = firstStarted.spawns "ts" ∧
      "ts" ∈ firstLost.needed ["typescript"] := by
  have hr : firstStarted.Reachable := ⟨_, _, _, _, _, _, rfl⟩
  obtain ⟨-, h⟩ := prewarm_as_named hr not_underWay_firstStarted ["typescript"]
  have hdone : firstLost.tasks[1]? =
      some ⟨.prewarm false ["typescript"], .done (.ok (.ids ["lint"]))⟩ := rfl
  have hneeded : firstStarted.needed ["typescript"] = ["lint"] := by decide
  obtain ⟨hended, -⟩ :=
    h [.deliver 1 0, .spawned 1 (.running false), .deliver 1 0, .exit 0] fun action hm => by
      simp only [List.mem_cons, List.not_mem_nil, or_false] at hm
      obtain rfl | rfl | rfl | rfl := hm
      · exact .inl rfl
      · exact .inr ⟨rfl, nofun⟩
      · exact .inl rfl
      · exact .inr ⟨rfl, nofun⟩
  obtain ⟨-, hspawns, -, hiff⟩ := hended _ hdone
  rw [hneeded] at hspawns
  refine ⟨not_underWay_firstStarted, hspawns "lint", hspawns "ts", ?_⟩
  exact (hiff 0 _ rfl).2 (.inr ⟨rfl, 0, ⟨_, rfl, rfl⟩, List.mem_cons_of_mem _ List.mem_cons_self⟩)

/-- What is named after a prewarming need not be among what that has started. -/
theorem prewarm_names_others :
    firstStarted.Reachable ∧ (∀ e a, ¬ firstStarted.UnderWay e a) ∧
      firstLost.tasks[1]? = some ⟨.prewarm false ["typescript"], .done (.ok (.ids ["lint"]))⟩ ∧
      (firstLost.run [.call (.prewarm false ["typescript"]), .resume 2, .deliver 2 0,
        .spawned 2 (.running false), .deliver 2 0]).tasks[2]? =
        some ⟨.prewarm false ["typescript"], .done (.ok (.ids ["ts"]))⟩ ∧
      ¬ ["ts"] ⊆ ["lint"] :=
  ⟨⟨_, _, _, _, _, _, rfl⟩, not_underWay_firstStarted, rfl, rfl, by decide⟩

end Registry
end Switchyard
