import Switchyard.Proofs.Registry.Openings
import Switchyard.Proofs.Registry.Vacancy

namespace Switchyard

namespace Servers

variable {s s' : Servers}

/-- The shutdown of every server that a task shuts down is on record. -/
def Announced (s : Servers) : Prop :=
  ∀ handles ∈ s.closing, ∀ h ∈ handles, .shuttingDown h ∈ s.events

theorem Announced.step (ha : s.Announced) (hs : Step s s') : s'.Announced := by
  have hkept {handles : List Nat} {h : Nat} (hm : handles ∈ s.closing) (hh : h ∈ handles) :
      .shuttingDown h ∈ s'.events :=
    hs.events_suffix.subset (ha handles hm h hh)
  intro handles hm h hh
  cases hs with
  | change hc =>
    cases hc with
    | call =>
      obtain hm | hm := List.mem_append.1 hm
      · exact hkept hm hh
      · cases List.mem_singleton.1 hm
        cases hh
    | exit =>
      rw [closing_dispose] at hm
      exact hkept hm hh
    | close ht hi =>
      obtain hm | rfl := List.mem_or_eq_of_mem_set hm
      · exact hkept hm hh
      · exact hkept (List.mem_of_getElem? ht) (List.mem_filter.1 hh).1
    | _ => exact hkept hm hh
  | shutdown ht =>
    obtain hm | rfl := List.mem_or_eq_of_mem_set hm
    · exact hkept hm hh
    · exact List.mem_append_left _ (List.mem_reverse.2 (List.mem_map.2 ⟨h, hh, rfl⟩))

theorem Announced.steps (ha : s.Announced) (hs : Steps s s') : s'.Announced := by
  induction hs with
  | refl => exact ha
  | tail _ hs ih => exact ih.step hs

end Servers

namespace Registry

variable {r r' : Registry} {t e h a : Nat}

theorem history_dispose (r : Registry) (h : Nat) : r.history <:+ (r.dispose h).history := by
  unfold dispose
  split
  · exact List.suffix_rfl
  · split
    · exact List.suffix_rfl
    · exact List.suffix_cons _ _

theorem history_exit (r : Registry) (h : Nat) : r.history <:+ (r.exit h).history := by
  unfold exit
  split
  · exact List.suffix_rfl
  split
  · exact List.suffix_rfl
  split
  · split
    · refine List.IsSuffix.trans ?_ (history_dispose _ _)
      exact List.suffix_cons _ _
    · exact List.suffix_rfl
  · exact List.suffix_rfl

theorem history_install (r : Registry) (a : Nat) (attempt : StartAttempt) (id : String)
    (current exited : Bool) :
    r.history <:+ (r.install a attempt id current exited).history := by
  have hrunning : r.history <:+ (r.install a attempt id current false).history := by
    cases current with
    | true => exact List.suffix_rfl
    | false =>
      simp only [install, Bool.false_eq_true, if_false]
      rw [dispose_last]
      exact List.suffix_cons _ _
  cases exited with
  | false => exact hrunning
  | true =>
    rw [install_exited]
    split
    · rename_i hc
      rw [hc] at hrunning
      exact hrunning.trans (history_exit _ _)
    · rename_i hc
      rwa [eq_false_of_ne_true hc] at hrunning

theorem history_spawned (r : Registry) (a : Nat) (outcome : SpawnOutcome) :
    r.history <:+ (r.spawned a outcome).history := by
  unfold spawned
  split
  · exact List.suffix_rfl
  split
  · cases outcome with
    | running exited => exact history_install r a _ _ _ exited
    | _ =>
      simp only [failAttempt]
      split
      · exact List.suffix_cons _ _
      · exact List.suffix_rfl
  · exact List.suffix_rfl

theorem history_holdLock (r : Registry) (t : Nat) (event : DocumentEvent) (path : Path)
    (uri : String) : (r.holdLock t event path uri).history = r.history := by
  cases event with
  | closed => exact history_finish _ t
  | _ => rfl

theorem history_beginDocument (r : Registry) (t : Nat) (event : DocumentEvent) (file : Path) :
    (r.beginDocument t event file).history = r.history := by
  unfold beginDocument
  dsimp only
  split
  · rfl
  · rename_i uri _
    split
    · exact history_holdLock (r.requestLock t uri) t event _ uri
    · rfl

theorem history_begin (r : Registry) (t : Nat) (call : RegistryCall) :
    r.history <:+ (r.begin t call).history := by
  have hsame {r' : Registry} (heq : r'.history = r.history) : r.history <:+ r'.history :=
    heq ▸ List.suffix_rfl
  cases call with
  | document event file => exact hsame (history_beginDocument r t event file)
  | watched event file =>
    simp only [begin]
    split
    · exact hsame (history_beginDocument r t event file)
    · exact List.suffix_rfl
  | start id =>
    simp only [begin]
    split <;> exact List.suffix_rfl
  | route file method params => exact hsame (history_finish _ t)
  | prewarm dryRun languages =>
    simp only [begin]
    split
    · exact List.suffix_rfl
    · exact hsame (history_finish _ t)
  | shutdownAll =>
    simp only [begin, takeAll_eq]
    exact (List.suffix_cons _ _).trans (List.suffix_append _ _)

theorem history_resume (r : Registry) (t : Nat) : r.history <:+ (r.resume t).history := by
  unfold resume
  split
  · exact history_begin r t _
  · split
    · exact history_holdLock r t _ _ _ ▸ List.suffix_rfl
    · exact List.suffix_rfl
  · exact List.suffix_rfl

theorem history_read (r : Registry) (t : Nat) (result : Except FileError String) :
    (r.read t result).history = r.history := by
  unfold read
  split
  · rename_i uri _
    cases result with
    | error error => exact history_unlock r t (.closing uri)
    | ok text => exact history_finish _ t
  · rfl

theorem history_advance (r : Registry) (errand : Errand) (d : Delivery) (entry : Entry) :
    r.history <:+ (r.advance errand d entry).1.history := by
  have harrive (h : Nat) : r.history <:+ (r.arrive errand d.entry entry h).1.history :=
    history_arrive r errand d.entry entry h ▸ List.suffix_rfl
  unfold advance seek
  repeat' split
  all_goals first | exact harrive _ | exact List.suffix_rfl | exact List.suffix_cons _ _

theorem history_setDelivery (r : Registry) (t : Nat) (errand : Errand) (ds : List Delivery)
    (i : Nat) (stage : DeliveryStage) :
    (r.setDelivery t errand ds i stage).history = r.history :=
  history_finish _ t

theorem history_deliver (r : Registry) (t i : Nat) : r.history <:+ (r.deliver t i).history := by
  obtain h | ⟨_, errand, _, d, entry, -, -, -, h⟩ := deliver_cases r t i
  · exact h.symm ▸ List.suffix_rfl
  · rw [h, history_setDelivery]
    exact history_advance r errand d entry

/-- The end of a sending adds nothing to the history, or that the server has accepted what was
sent. -/
theorem history_endSending (r : Registry) (t i : Nat) (accepted : Bool) :
    (r.endSending t i accepted).history = r.history ∨ ∃ h notice, r.IsSending t h notice ∧
      (r.endSending t i accepted).history = .accepted t h notice :: r.history := by
  obtain heq | ⟨call, errand, ds, e, h, notice, ht, hd, heq⟩ := endSending_cases r t i accepted
  · exact .inl (congrArg history heq)
  · rw [heq, history_setDelivery]
    unfold sent
    dsimp only
    split
    · have hm := List.mem_of_getElem? hd
      exact .inr ⟨h, notice, ⟨call, errand, ds, _, ht, hm, rfl⟩, rfl⟩
    · cases notice <;> exact .inl rfl

theorem history_close (r : Registry) (t h : Nat) : r.history <:+ (r.close t h).history := by
  unfold close
  split
  · split
    · exact history_dispose r h
    · exact List.suffix_rfl
  · exact List.suffix_rfl

theorem history_step (r : Registry) (action : RegistryAction) :
    r.history <:+ (r.step action).history := by
  cases action with
  | call call => exact List.suffix_rfl
  | resume t => exact history_resume r t
  | read t result => exact history_read r t result ▸ List.suffix_rfl
  | deliver t i => exact history_deliver r t i
  | sent t i accepted =>
    obtain heq | ⟨h, notice, -, heq⟩ := history_endSending r t i accepted
    · exact heq ▸ List.suffix_rfl
    · exact heq ▸ List.suffix_cons _ _
  | spawned a outcome => exact history_spawned r a outcome
  | closed t h => exact history_close r t h
  | exit h => exact history_exit r h
  | notify h method params =>
    obtain ⟨hub, heq⟩ := receive_eq r h method params
    have hsame : (r.receive h method params).history = r.history := by rw [heq]
    exact hsame ▸ List.suffix_rfl
  | hub call => exact List.suffix_rfl

theorem accepted_suffix {notice : Notice} {before : List RegistryEvent} {action : RegistryAction}
    (hs : .accepted t h notice :: before <:+ (r.step action).history) :
    .accepted t h notice :: before <:+ r.history ∨
      before = r.history ∧ r.IsSending t h notice := by
  by_cases ha : ∃ u i accepted, action = .sent u i accepted
  · obtain ⟨u, i, accepted, rfl⟩ := ha
    rw [step] at hs
    obtain heq | ⟨h', notice', hsend, heq⟩ := history_endSending r u i accepted
    · rw [heq] at hs
      exact .inl hs
    · rw [heq] at hs
      obtain hcons | hs := List.suffix_cons_iff.1 hs
      · cases hcons
        exact .inr ⟨rfl, hsend⟩
      · exact .inl hs
  · left
    obtain hs' | hs' := List.suffix_or_suffix_of_suffix hs (history_step r action)
    · exact hs'
    obtain heq | hs' := List.suffix_cons_iff.1 hs'
    · exact heq ▸ List.suffix_rfl
    · -- One acceptance more than before would be on record.
      have hsub : (.accepted t h notice :: r.history).Sublist (r.step action).history :=
        (hs'.sublist.cons_cons _).trans hs.sublist
      have hsame : (r.step action).history.filter (·.isAcceptance) =
          r.history.filter (·.isAcceptance) :=
        acceptances_step fun u i accepted heq => ha ⟨u, i, accepted, heq⟩
      have hle := (hsub.filter (·.isAcceptance)).length_le
      rw [hsame, List.filter_cons_of_pos rfl] at hle
      exact absurd hle (Nat.not_succ_le_self _)

theorem Reachable.announced (hr : r.Reachable) : r.servers.Announced := by
  apply hr.induction (p := fun r => r.servers.Announced)
  · intro root configs watch commandExists handshakeMs handles hm
    cases hm
  · intro r action _ ha
    exact ha.steps (servers_steps r action)

theorem Running.shuttingDown (hu : r.Running h) (hr : r.Reachable)
    (hn : ∀ e, ¬ r.Installed e h) : .shuttingDown h ∈ r.history := by
  obtain ⟨e, hi⟩ | ⟨task, handles, ht, hs, hm⟩ := hu.installed_or_closing hr
  · exact absurd hi (hn e)
  · refine (mem_events rfl).1 (hr.announced handles ?_ h hm)
    exact List.mem_map.2 ⟨task, ht, by rw [hs]; rfl⟩

end Registry

end Switchyard
