import Switchyard.Proofs.Registry.Callers

namespace Switchyard

namespace Registry

variable {r r' : Registry} {t : Nat}

/-- A task delivers to an entry once at most, in the order of the entries. -/
def InOrder (r : Registry) (t : Nat) : Prop :=
  ∀ call errand ds, r.tasks[t]? = some ⟨call, .routing errand ds⟩ →
    (ds.map (·.entry)).Sublist (List.range r.entries.length)

theorem InOrder.of_same (hi : r.InOrder t) (ht : r'.tasks[t]? = r.tasks[t]?)
    (he : r'.entries.length = r.entries.length) : r'.InOrder t := by
  intro call errand ds hds
  rw [ht] at hds
  rw [he]
  exact hi call errand ds hds

theorem length_entries_before (hb : Servers.Before r.servers r'.servers) :
    r'.entries.length = r.entries.length := by
  have hc := congrArg List.length hb.configs
  simpa [servers] using hc

/-- A task that routes has not begun with its deliveries, of which there is one to an entry. -/
def Afresh (r : Registry) (t : Nat) : Prop :=
  ∀ call errand ds, r.tasks[t]? = some ⟨call, .routing errand ds⟩ →
    ∃ es : List Nat, es.Sublist (List.range r.entries.length) ∧ ds = es.map fun e => ⟨e, .begun⟩

theorem Afresh.inOrder (hf : r.Afresh t) : r.InOrder t := by
  intro call errand ds ht
  obtain ⟨es, hs, rfl⟩ := hf call errand ds ht
  simpa [List.map_map, Function.comp_def] using hs

theorem afresh_setStage {stage : TaskStage}
    (h : ∀ errand ds, stage = .routing errand ds → ∃ es : List Nat,
      es.Sublist (List.range r.entries.length) ∧ ds = es.map fun e => ⟨e, .begun⟩) :
    (r.setStage t stage).Afresh t := by
  intro call errand ds ht
  obtain ⟨old, _, heq⟩ := getElem?_setStage ht
  cases heq
  exact h errand ds rfl

theorem afresh_done (result : Except ServerError RegistryReply) :
    (r.setStage t (.done result)).Afresh t :=
  afresh_setStage nofun

theorem Afresh.finish (hf : r.Afresh t) : (r.finish t).Afresh t := by
  unfold Registry.finish
  split
  · split
    · exact afresh_done _
    · exact hf
  · exact hf

theorem afresh_routeTo (errand : Errand) {es : List Nat}
    (hs : es.Sublist (List.range r.entries.length)) : (r.routeTo t errand es).Afresh t := by
  apply afresh_setStage
  rintro _ _ ⟨⟩
  exact ⟨es, hs, rfl⟩

theorem entriesWhere_sublist (r : Registry) (p : Entry → Bool) :
    (r.entriesWhere p).Sublist (List.range r.entries.length) :=
  List.filter_sublist

theorem afresh_holdLock (event : DocumentEvent) (path : Path) (uri : String) :
    (r.holdLock t event path uri).Afresh t := by
  cases event with
  | closed => exact (afresh_routeTo (r := r.dropVersion uri) _ (entriesWhere_sublist r _)).finish
  | _ => exact afresh_setStage nofun

theorem afresh_beginDocument (event : DocumentEvent) (file : Path) :
    (r.beginDocument t event file).Afresh t := by
  unfold beginDocument
  dsimp only
  split
  · exact afresh_done _
  · split
    · exact afresh_holdLock event _ _
    · exact afresh_setStage nofun

theorem afresh_begin (call : RegistryCall) : (r.begin t call).Afresh t := by
  cases call with
  | document event file => exact afresh_beginDocument event file
  | watched event file =>
    simp only [begin]
    split
    · exact afresh_beginDocument event file
    · split
      · apply afresh_setStage
        intro errand ds hs
        cases hs
      · exact afresh_done _
  | start id =>
    simp only [begin]
    split
    · exact afresh_done _
    · rename_i e he
      obtain ⟨hl, _⟩ := List.findIdx?_eq_some_iff_getElem.1 he
      exact afresh_routeTo _ (List.singleton_sublist.2 (List.mem_range.2 hl))
  | route file method params =>
    exact (afresh_routeTo _ (entriesWhere_sublist r _)).finish
  | prewarm dryRun languages =>
    simp only [begin]
    split
    · exact afresh_done _
    · exact (afresh_routeTo _ (entriesWhere_sublist r _)).finish
  | shutdownAll =>
    apply afresh_setStage
    intro errand ds hs
    split at hs <;> cases hs

theorem afresh_resume (r : Registry) (t : Nat) : (r.resume t).Afresh t ∨ r.resume t = r := by
  unfold resume
  split
  · exact .inl (afresh_begin _)
  · split
    · exact .inl (afresh_holdLock _ _ _)
    · exact .inr rfl
  · exact .inr rfl

theorem afresh_read (r : Registry) (t : Nat) (result : Except FileError String) :
    (r.read t result).Afresh t ∨ r.read t result = r := by
  unfold read
  split
  · rename_i path uri _
    cases result with
    | error e => exact .inl (afresh_done _)
    | ok text =>
      exact .inl (afresh_routeTo (r := r.setVersion uri _) _ (entriesWhere_sublist r _)).finish
  · exact .inr rfl

theorem afresh_close (r : Registry) (t h : Nat) : (r.close t h).Afresh t ∨ r.close t h = r := by
  unfold close
  split
  · split
    · left
      apply afresh_setStage
      intro errand ds hs
      split at hs <;> cases hs
    · exact .inr rfl
  · exact .inr rfl

/-- An action that lets no delivery go on leaves a task with what it routed, or with deliveries that
have not begun. -/
theorem afresh_step {action : RegistryAction} (hd : ∀ i, action ≠ .deliver t i)
    (hs : ∀ i accepted, action ≠ .sent t i accepted) :
    (r.step action).Afresh t ∨ (r.step action).tasks[t]? = r.tasks[t]? := by
  by_cases ht : action.task? = some t
  · have hsame {r' : Registry} (h : r'.Afresh t ∨ r' = r) :
        r'.Afresh t ∨ r'.tasks[t]? = r.tasks[t]? :=
      h.imp_right fun h => by rw [h]
    cases action with
    | resume u =>
      cases ht
      exact hsame (afresh_resume r t)
    | read u result =>
      cases ht
      exact hsame (afresh_read r t result)
    | closed u h =>
      cases ht
      exact hsame (afresh_close r t h)
    | deliver u i =>
      cases ht
      exact absurd rfl (hd i)
    | sent u i accepted =>
      cases ht
      exact absurd rfl (hs i accepted)
    | _ => cases ht
  · cases hu : (r.step action).tasks[t]? with
    | none =>
      refine .inl fun call errand ds h => ?_
      cases hu.symm.trans h
    | some task =>
      obtain hold | hbegun := task_of_step hu ht
      · exact .inr hold.symm
      · refine .inl fun call errand ds h => ?_
        cases hu.symm.trans h
        cases hbegun

theorem entries_finish (r : Registry) (t : Nat) : (r.finish t).entries = r.entries := by
  unfold finish
  split
  · split
    · rename_i errand ds _ _
      cases errand <;> rfl
    · rfl
  · rfl

theorem InOrder.finish (hi : r.InOrder t) : (r.finish t).InOrder t := by
  unfold Registry.finish
  split
  · split
    · exact (afresh_done _).inOrder
    · exact hi
  · exact hi

theorem inOrder_setDelivery {errand : Errand} {ds : List Delivery}
    (hs : (ds.map (·.entry)).Sublist (List.range r.entries.length)) (d : Nat)
    (stage : DeliveryStage) : (r.setDelivery t errand ds d stage).InOrder t := by
  apply InOrder.finish
  intro call errand' ds' ht
  obtain ⟨old, _, heq⟩ := getElem?_setStage ht
  cases heq
  have hm : (ds.modify d ({ · with stage })).map (·.entry) = ds.map (·.entry) :=
    map_modify_eq fun _ _ => rfl
  rwa [hm]

theorem InOrder.deliver (hi : r.InOrder t) (d : Nat) : (r.deliver t d).InOrder t := by
  obtain h | ⟨call, errand, ds, delivery, entry, ht, -, he, h⟩ := deliver_cases r t d
  · rwa [h]
  · have ha : Servers.Changes r.servers (r.advance errand delivery entry).1.servers :=
      (servers_advance errand he).to_reflTransGen
    have hs := hi call errand ds ht
    rw [← length_entries_before ha.steps.before] at hs
    rw [h]
    exact inOrder_setDelivery hs d _

theorem InOrder.endSending (hi : r.InOrder t) (d : Nat) (accepted : Bool) :
    (r.endSending t d accepted).InOrder t := by
  obtain heq | ⟨call, errand, ds, e, h, notice, ht, -, heq⟩ := endSending_cases r t d accepted
  · rwa [heq]
  · have hl := length_entries_before (before_of_eq (servers_sent r t e h notice accepted))
    have hs := hi call errand ds ht
    rw [← hl] at hs
    rw [heq]
    exact inOrder_setDelivery hs d _

theorem inOrder_step (hi : ∀ t, r.InOrder t) (action : RegistryAction) (t : Nat) :
    (r.step action).InOrder t := by
  by_cases hd : ∃ i, action = .deliver t i
  · obtain ⟨i, rfl⟩ := hd
    exact (hi t).deliver i
  by_cases hs : ∃ i accepted, action = .sent t i accepted
  · obtain ⟨i, accepted, rfl⟩ := hs
    exact (hi t).endSending i accepted
  obtain h | h := afresh_step (r := r) (fun i heq => hd ⟨i, heq⟩)
    fun i accepted heq => hs ⟨i, accepted, heq⟩
  · exact h.inOrder
  · exact (hi t).of_same h (length_entries_before (servers_steps r action).before)

theorem Reachable.inOrder (hr : r.Reachable) (t : Nat) : r.InOrder t := by
  refine hr.induction (p := fun r => ∀ t, r.InOrder t) ?_ ?_ t
  · intro root configs watch commandExists handshakeMs t call errand ds ht
    cases ht
  · intro r action _ hi
    exact inOrder_step hi action

theorem length_closing_step {s s' : Servers} (h : Servers.Step s s')
    (hl : ∀ handles ∈ s.closing, handles.length ≤ s.slots.length) :
    ∀ handles ∈ s'.closing, handles.length ≤ s'.slots.length := by
  cases h with
  | change h =>
    cases h with
    | call =>
      intro handles hm
      obtain hm | hm := List.mem_append.1 hm
      · exact hl handles hm
      · cases List.mem_singleton.1 hm
        exact Nat.zero_le _
    | exit =>
      rw [Servers.closing_dispose, Servers.slots_dispose]
      simpa using hl
    | close ht hm =>
      intro handles hm'
      rw [Servers.slots_dispose]
      obtain h | rfl := List.mem_or_eq_of_mem_set hm'
      · exact hl handles h
      · exact Nat.le_trans (List.length_filter_le _ _) (hl _ (List.mem_of_getElem? ht))
    | _ => simpa using hl
  | shutdown ht =>
    intro handles hm
    simp only [Servers.shutDown, List.length_map] at hm ⊢
    obtain h | rfl := List.mem_or_eq_of_mem_set hm
    · exact hl handles h
    · exact List.length_filterMap_le _ _

theorem Reachable.length_closing {call : RegistryCall} {handles : List Nat} (hr : r.Reachable)
    (ht : r.tasks[t]? = some ⟨call, .closing handles⟩) : handles.length ≤ r.entries.length := by
  have hl : ∀ handles ∈ r.servers.closing, handles.length ≤ r.servers.slots.length := by
    refine hr.induction (p := fun r => ∀ handles ∈ r.servers.closing,
      handles.length ≤ r.servers.slots.length) ?_ ?_
    · intro root configs watch commandExists handshakeMs
      exact nofun
    · intro r action _ hl
      generalize hs : (r.step action).servers = s
      have h : Servers.Steps r.servers s := hs ▸ servers_steps r action
      clear hs
      induction h with
      | refl => exact hl
      | tail _ h ih => exact length_closing_step h ih
  have hm : handles ∈ r.servers.closing :=
    List.mem_map.2 ⟨_, List.mem_of_getElem? ht, rfl⟩
  simpa [servers] using hl handles hm

theorem attempts_of_servers (h : r'.servers = r.servers) : r'.attempts = r.attempts :=
  congrArg Servers.attempts h

theorem length_attempts_install (r : Registry) (a : Nat) (attempt : StartAttempt) (id : String)
    (current exited : Bool) :
    (r.install a attempt id current exited).attempts.length = r.attempts.length := by
  cases current with
  | false => simp [install, endAttempt]
  | true => cases exited <;> simp [install, endAttempt, modifyEntry]

theorem length_attempts_spawned (r : Registry) (a : Nat) (outcome : SpawnOutcome) :
    (r.spawned a outcome).attempts.length = r.attempts.length := by
  unfold spawned
  split
  · rfl
  split
  · cases outcome with
    | running exited => exact length_attempts_install r a _ _ _ exited
    | _ =>
      simp only [failAttempt]
      split <;> exact List.length_modify _ _ _
  · rfl

theorem attempts_arrive (r : Registry) (errand : Errand) (e : Nat) (entry : Entry) (h : Nat) :
    (r.arrive errand e entry h).1.attempts = r.attempts :=
  attempts_of_servers (servers_arrive r errand e entry h)

theorem attempts_advance (r : Registry) (errand : Errand) (d : Delivery) (entry : Entry) :
    (r.advance errand d entry).1.attempts.length = r.attempts.length ∨
      ((r.advance errand d entry).1.attempts.length = r.attempts.length + 1 ∧
        (r.advance errand d entry).2 = .starting r.attempts.length) := by
  have harrive (h : Nat) : (r.arrive errand d.entry entry h).1.attempts.length =
      r.attempts.length := by rw [attempts_arrive]
  unfold advance
  split
  · unfold seek
    split
    · split
      · exact .inl (harrive _)
      · exact .inl rfl
    · split
      · exact .inl rfl
      · split
        · exact .inl (harrive _)
        · exact .inl rfl
        · exact .inr ⟨by simp [beginAttempt, note, modifyEntry], rfl⟩
  · split
    · exact .inl rfl
    · exact .inl (harrive _)
    · exact .inl rfl
  · exact .inl rfl

theorem attempts_finish (r : Registry) (t : Nat) : (r.finish t).attempts = r.attempts :=
  attempts_of_servers (servers_finish r t)

/-- An action makes no start attempt, or one that a delivery waits for from then on. -/
theorem attempts_step (r : Registry) (action : RegistryAction) :
    (r.step action).attempts.length = r.attempts.length ∨
      ((r.step action).attempts.length = r.attempts.length + 1 ∧
        ∃ t i, (r.step action).Awaits t i r.attempts.length) := by
  have hsame {r' : Registry} (h : r'.servers = r.servers) :
      r'.attempts.length = r.attempts.length := by rw [attempts_of_servers h]
  cases action with
  | call call => exact .inl rfl
  | resume t =>
    obtain h | ⟨_, h⟩ := servers_resume r t
    · exact .inl (hsame h)
    · have ha : (r.resume t).attempts = r.attempts := congrArg Servers.attempts h
      exact .inl (congrArg List.length ha)
  | read t result => exact .inl (hsame (servers_read r t result))
  | deliver t d =>
    simp only [step, deliver]
    split
    · rename_i call errand ds ht
      split
      · exact .inl rfl
      · rename_i delivery hd
        split
        · exact .inl rfl
        · rename_i entry _
          have ht' : (r.advance errand delivery entry).1.tasks[t]? =
              some ⟨call, .routing errand ds⟩ := by rwa [tasks_advance]
          simp only [setDelivery, attempts_finish]
          obtain h | ⟨h, hs⟩ := attempts_advance r errand delivery entry
          · exact .inl h
          · rw [hs]
            exact .inr ⟨h, t, d, awaits_setDelivery ht' hd (.inl ⟨rfl, rfl, rfl⟩)⟩
    · exact .inl rfl
  | sent t d accepted => exact .inl (hsame (servers_endSending r t d accepted))
  | spawned a outcome => exact .inl (length_attempts_spawned r a outcome)
  | closed t h =>
    simp only [step, close]
    split
    · split
      · exact .inl (congrArg List.length (attempts_dispose r h))
      · exact .inl rfl
    · exact .inl rfl
  | exit h => exact .inl (congrArg List.length (attempts_exit r h))
  | notify h method params => exact .inl (hsame (servers_receive r h method params))
  | hub call => exact .inl rfl

theorem Reachable.awaited {a : Nat} {attempt : StartAttempt} (hr : r.Reachable)
    (ha : r.attempts[a]? = some attempt) (ho : attempt.outcome = none) :
    ∃ t i, r.Awaits t i a := by
  refine hr.induction (p := fun r => ∀ (a : Nat) (attempt : StartAttempt),
    r.attempts[a]? = some attempt → attempt.outcome = none → ∃ t i, r.Awaits t i a) ?_ ?_ a attempt
    ha ho
  · intro root configs watch commandExists handshakeMs a attempt ha
    cases ha
  · intro r action hr ih a attempt ha ho
    have hb := (servers_steps r action).before
    cases hold : r.attempts[a]? with
    | some old =>
      obtain ⟨new, hnew, _, _, hout⟩ := hb.attempts a old hold
      cases ha.symm.trans hnew
      have hn : old.outcome = none := by
        cases h : old.outcome with
        | none => rfl
        | some outcome => cases ho.symm.trans (hout outcome h)
      obtain ⟨t, i, hw⟩ := ih a old hold hn
      obtain hw | ⟨outcome, h, _⟩ := hw.step hr action
      · exact ⟨t, i, hw⟩
      · simp [outcome?, ha, ho] at h
    | none =>
      have hl := (List.getElem?_eq_some_iff.1 ha).1
      have hge := List.getElem?_eq_none_iff.1 hold
      obtain h | ⟨h, hw⟩ := attempts_step r action
      · omega
      · have heq : a = r.attempts.length := by omega
        rw [heq]
        exact hw

end Registry
end Switchyard
