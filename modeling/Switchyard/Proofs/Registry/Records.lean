import Switchyard.Proofs.Registry.History
import Switchyard.Proofs.Registry.Reopenings

namespace Switchyard

/-- An entry puts no document on record, and has none there once it has got another server. -/
structure Entry.Sheds (x y : Entry) : Prop where
  opened : y.opened ⊆ x.opened
  arrived {h : Nat} : y.slot.state = .started h → x.slot.state = .started h ∨ y.opened = []

namespace Entry.Sheds

variable {x y z : Entry}

theorem refl (x : Entry) : x.Sheds x := ⟨List.Subset.refl _, .inl⟩

theorem trans (hxy : x.Sheds y) (hyz : y.Sheds z) : x.Sheds z where
  opened := List.Subset.trans hyz.opened hxy.opened
  arrived hz := by
    obtain hy | hn := hyz.arrived hz
    · refine (hxy.arrived hy).imp_right fun hn => ?_
      exact List.subset_nil.1 (hn ▸ hyz.opened)
    · exact .inr hn

theorem of_nil (hn : y.opened = []) : x.Sheds y :=
  ⟨hn ▸ List.nil_subset _, fun _ => .inr hn⟩

end Entry.Sheds

namespace Registry

variable {r r' : Registry} {t u e h i a : Nat} {uri v : String} {action : RegistryAction}

theorem sheds_exit (r : Registry) (h : Nat) : Kept Entry.Sheds r.entries (r.exit h).entries := by
  have hsame : Kept Entry.Sheds r.entries r.entries := .refl .refl _
  unfold exit
  split
  · exact hsame
  split
  · exact hsame
  split
  · split
    · rw [entries_dispose]
      exact .modify .refl (fun _ => .of_nil rfl) _ _
    · exact hsame
  · exact hsame

theorem sheds_install (r : Registry) (a : Nat) (attempt : StartAttempt) (id : String)
    (current exited : Bool) :
    Kept Entry.Sheds r.entries (r.install a attempt id current exited).entries := by
  have hrunning : Kept Entry.Sheds r.entries (r.install a attempt id current false).entries := by
    cases current with
    | true => exact .modify .refl (fun _ => .of_nil rfl) _ _
    | false =>
      simp only [install, Bool.false_eq_true, if_false]
      rw [dispose_last]
      exact .refl .refl _
  cases exited with
  | false => exact hrunning
  | true =>
    rw [install_exited]
    split
    · rename_i hc
      rw [hc] at hrunning
      refine hrunning.trans ?_ (sheds_exit _ _)
      exact fun _ _ _ hxy hyz => hxy.trans hyz
    · rename_i hc
      rwa [eq_false_of_ne_true hc] at hrunning

theorem sheds_failAttempt (r : Registry) (a : Nat) (attempt : StartAttempt) (current : Bool)
    (error : ServerError) :
    Kept Entry.Sheds r.entries (r.failAttempt a attempt current error).entries := by
  cases current with
  | true => exact .modify .refl (fun _ => ⟨List.Subset.refl _, nofun⟩) _ _
  | false => exact .refl .refl _

theorem sheds_spawned (r : Registry) (a : Nat) (outcome : SpawnOutcome) :
    Kept Entry.Sheds r.entries (r.spawned a outcome).entries := by
  unfold spawned
  split
  · exact .refl .refl _
  split
  · cases outcome with
    | running exited => exact sheds_install r a _ _ _ exited
    | _ => exact sheds_failAttempt r a _ _ _
  · exact .refl .refl _

theorem sheds_step (hd : ∀ t i, action ≠ .deliver t i)
    (hs : ∀ t i accepted, action ≠ .sent t i accepted) :
    Kept Entry.Sheds r.entries (r.step action).entries := by
  cases action with
  | call call => exact .refl .refl _
  | resume t =>
    obtain h | h := entries_resume r t
    · rw [step, h]
      exact .refl .refl _
    · rw [step, h]
      exact .map (fun _ => .of_nil rfl) _
  | read t result =>
    rw [step, entries_read]
    exact .refl .refl _
  | deliver t i => exact absurd rfl (hd t i)
  | sent t i accepted => exact absurd rfl (hs t i accepted)
  | spawned a outcome => exact sheds_spawned r a outcome
  | closed t h =>
    rw [step, entries_close]
    exact .refl .refl _
  | exit h => exact sheds_exit r h
  | notify h method params =>
    obtain ⟨hub, heq⟩ := receive_eq r h method params
    rw [step, heq]
    exact .refl .refl _
  | hub call => exact .refl .refl _

theorem length_entries_step (r : Registry) (action : RegistryAction) :
    (r.step action).entries.length = r.entries.length :=
  length_entries_before (servers_steps r action).before

theorem Opened.of_sheds (ho : r'.Opened e uri) (hk : Kept Entry.Sheds r.entries r'.entries)
    (hl : r'.entries.length = r.entries.length) : r.Opened e uri := by
  obtain ⟨y, hy, hm⟩ := ho
  obtain ⟨hlt, -⟩ := List.getElem?_eq_some_iff.1 hy
  have hx := List.getElem?_eq_getElem (hl ▸ hlt)
  obtain ⟨y', hy', hsheds⟩ := hk e _ hx
  cases hy.symm.trans hy'
  exact ⟨_, hx, hsheds.opened hm⟩

theorem Installed.of_sheds (hi : r'.Installed e h) (ho : r'.Opened e uri)
    (hk : Kept Entry.Sheds r.entries r'.entries) (hl : r'.entries.length = r.entries.length) :
    r.Installed e h := by
  obtain ⟨y, hy, hst⟩ := hi
  obtain ⟨y', hy', hm⟩ := ho
  cases hy.symm.trans hy'
  obtain ⟨hlt, -⟩ := List.getElem?_eq_some_iff.1 hy
  have hx := List.getElem?_eq_getElem (hl ▸ hlt)
  obtain ⟨y', hy', hsheds⟩ := hk e _ hx
  cases hy.symm.trans hy'
  obtain hst | hn := hsheds.arrived hst
  · exact ⟨_, hx, hst⟩
  · rw [hn] at hm
    cases hm

theorem not_opened_install (r : Registry) (a : Nat) (attempt : StartAttempt) (id : String)
    (exited : Bool) (uri : String) :
    ¬ (r.install a attempt id true exited).Opened attempt.entry uri := by
  have hrunning : ¬ (r.install a attempt id true false).Opened attempt.entry uri := by
    rintro ⟨entry, he, hm⟩
    simp only [install, if_true, Bool.false_eq_true, if_false, endAttempt, modifyEntry,
      List.getElem?_modify_eq] at he
    obtain ⟨old, -, rfl⟩ := Option.map_eq_some_iff.1 he
    cases hm
  cases exited with
  | false => exact hrunning
  | true =>
    rw [install_exited, if_pos rfl]
    exact fun ho => hrunning (ho.of_sheds (sheds_exit _ _) (length_entries_step _ (.exit _)))

theorem outcome?_endAttempt (r : Registry) (a : Nat) (outcome : Except ServerError Nat) :
    (r.endAttempt a outcome).outcome? a = (r.attempts[a]?).map fun _ => outcome := by
  simp only [outcome?, endAttempt, List.getElem?_modify_eq]
  cases r.attempts[a]? <;> rfl

theorem not_opened_spawned {outcome : SpawnOutcome} {attempt : StartAttempt}
    (ha : r.attempts[a]? = some attempt) (hn : r.outcome? a = none)
    (ho : (r.spawned a outcome).outcome? a = some (.ok h)) (uri : String) :
    ¬ (r.spawned a outcome).Opened attempt.entry uri := by
  have hfail {current : Bool} {error : ServerError} :
      (r.failAttempt a attempt current error).outcome? a ≠ some (.ok h) := by
    have hend : (r.endAttempt a (.error error)).outcome? a ≠ some (.ok h) := by
      rw [outcome?_endAttempt, ha]
      exact nofun
    cases current <;> exact hend
  unfold spawned at ho ⊢
  simp only [ha] at ho ⊢
  split at ho
  · rename_i entry he hnone
    cases outcome with
    | running exited =>
      dsimp only at ho ⊢
      cases hc : entry.slot.generation == attempt.generation with
      | true => exact not_opened_install r a attempt _ exited uri
      | false =>
        rw [hc] at ho
        simp only [install, Bool.false_eq_true, if_false] at ho
        rw [outcome?_endAttempt, attempts_dispose, ha] at ho
        cases ho
    | failed error => exact absurd ho hfail
    | timedOut => exact absurd ho hfail
  · cases hn.symm.trans ho

theorem outcome?_spawned_of_ne {b : Nat} (hne : b ≠ a) (outcome : SpawnOutcome) :
    (r.spawned b outcome).outcome? a = r.outcome? a := by
  have hend (outcome : Except ServerError Nat) :
      (r.attempts.modify b ({ · with outcome := some outcome }))[a]? = r.attempts[a]? :=
    List.getElem?_modify_ne _ _ hne
  unfold spawned
  split
  · rfl
  split
  · cases outcome with
    | running exited =>
      rename_i attempt _ _ _ _ _ _
      have hrunning (id : String) (current : Bool) :
          (r.install b attempt id current false).outcome? a = r.outcome? a := by
        cases current <;> simp [outcome?, install, endAttempt, modifyEntry, hend]
      dsimp only
      cases exited with
      | false => exact hrunning _ _
      | true =>
        rw [install_exited]
        split
        · rw [outcome?, attempts_exit]
          exact hrunning _ true
        · exact hrunning _ false
    | _ =>
      simp only [failAttempt]
      split <;> simp [outcome?, endAttempt, modifyEntry, note, hend]
  · rfl

theorem attempts_quiet (ha : ∀ a outcome, action ≠ .spawned a outcome)
    (hd : ∀ t i, action ≠ .deliver t i) : (r.step action).attempts = r.attempts := by
  cases action with
  | resume t =>
    obtain h | ⟨_, h⟩ := servers_resume r t
    · exact attempts_of_servers h
    · exact congrArg Servers.attempts h
  | read t result => exact attempts_of_servers (servers_read r t result)
  | deliver t i => exact absurd rfl (hd t i)
  | sent t i accepted => exact attempts_of_servers (servers_endSending r t i accepted)
  | spawned a outcome => exact absurd rfl (ha a outcome)
  | closed t h =>
    simp only [step, close]
    split
    · split
      · exact attempts_dispose r h
      · rfl
    · rfl
  | exit h => exact attempts_exit r h
  | notify h method params => exact attempts_of_servers (servers_receive r h method params)
  | _ => rfl

theorem not_opened_step {attempt : StartAttempt} (ha : r.attempts[a]? = some attempt)
    (hn : r.outcome? a = none) (hd : ∀ t i, action ≠ .deliver t i)
    (ho : (r.step action).outcome? a = some (.ok h)) (uri : String) :
    ¬ (r.step action).Opened attempt.entry uri := by
  have hsame (heq : (r.step action).outcome? a = r.outcome? a) :
      ¬ (r.step action).Opened attempt.entry uri := by
    rw [heq, hn] at ho
    cases ho
  by_cases hs : ∃ b outcome, action = .spawned b outcome
  · obtain ⟨b, outcome, rfl⟩ := hs
    by_cases hb : b = a
    · subst hb
      exact not_opened_spawned ha hn ho uri
    · exact hsame (outcome?_spawned_of_ne hb outcome)
  · refine hsame ?_
    rw [outcome?, attempts_quiet (fun b outcome heq => hs ⟨b, outcome, heq⟩) hd, outcome?]

variable {call : RegistryCall} {errand : Errand} {ds : List Delivery} {d : Delivery}
  {entry : Entry} {notice : Notice}

theorem opened_of_modifyEntry {f : Entry → Entry} (ho : (r.modifyEntry i f).Opened e v)
    (hf : e = i → ∀ x, v ∈ (f x).opened → v ∈ x.opened) : r.Opened e v := by
  obtain ⟨y, hy, hm⟩ := ho
  simp only [modifyEntry, List.getElem?_modify] at hy
  obtain ⟨x, hx, rfl⟩ := Option.map_eq_some_iff.1 hy
  refine ⟨x, hx, ?_⟩
  split at hm
  · rename_i heq
    exact hf heq.symm x hm
  · exact hm

theorem mem_of_addOpened {x : Entry} (hm : v ∈ (x.addOpened uri).opened) :
    v ∈ x.opened ∨ v = uri := by
  unfold Entry.addOpened at hm
  split at hm
  · exact .inl hm
  · exact (List.mem_cons.1 hm).symm

theorem opened_of_arrive (ho : (r.arrive errand i entry h).1.Opened e v) :
    r.Opened e v ∨ e = i ∧ ∃ language version text,
      (r.arrive errand i entry h).2 = .sending h (.didOpen v language version text) := by
  have hadd (uri : String) (hop : (r.modifyEntry i (·.addOpened uri)).Opened e v) :
      r.Opened e v ∨ e = i ∧ v = uri := by
    by_cases heq : e = i ∧ v = uri
    · exact .inr heq
    · exact .inl (opened_of_modifyEntry hop fun hei x hm =>
        (mem_of_addOpened hm).resolve_right fun hv => heq ⟨hei, hv⟩)
  cases errand with
  | opening uri language text =>
    obtain hop | ⟨rfl, rfl⟩ := hadd uri ho
    · exact .inl hop
    · exact .inr ⟨rfl, language, 1, text, rfl⟩
  | changing uri language text version =>
    simp only [arrive] at ho ⊢
    split at ho
    · exact .inl ho
    · rename_i hc
      rw [if_neg hc]
      obtain hop | ⟨rfl, rfl⟩ := hadd uri ho
      · exact .inl hop
      · exact .inr ⟨rfl, language, version, text, rfl⟩
  | closing uri =>
    simp only [arrive] at ho
    split at ho
    · refine .inl (opened_of_modifyEntry ho fun _ x hm => ?_)
      exact (List.mem_filter.1 hm).1
    · exact .inl ho
  | _ => exact .inl ho

theorem opened_of_advance (ho : (r.advance errand d entry).1.Opened e v) :
    r.Opened e v ∨ e = d.entry ∧ ∃ h language version text,
      (r.advance errand d entry).2 = .sending h (.didOpen v language version text) := by
  have harrive {h : Nat} (hop : (r.arrive errand d.entry entry h).1.Opened e v) :
      r.Opened e v ∨ e = d.entry ∧ ∃ i language version text,
        (r.arrive errand d.entry entry h).2 = .sending i (.didOpen v language version text) :=
    (opened_of_arrive hop).imp_right fun ⟨heq, hs⟩ => ⟨heq, h, hs⟩
  obtain ⟨e', old⟩ := d
  cases old with
  | done outcome => exact .inl ho
  | sending h notice => exact .inl ho
  | starting a =>
    simp only [advance] at ho ⊢
    split at ho
    · exact .inl ho
    · exact harrive ho
    · exact .inl ho
  | begun =>
    simp only [advance, seek] at ho ⊢
    split at ho
    · split at ho
      · exact harrive ho
      · exact .inl ho
    · split at ho
      · exact .inl ho
      · rename_i hu
        simp only [if_neg hu]
        split at ho
        · exact harrive ho
        · exact .inl ho
        · exact .inl (opened_of_modifyEntry (r := { r with attempts := _ }) ho fun _ _ hm => hm)

theorem handles_advance (r : Registry) (errand : Errand) (d : Delivery) (entry : Entry) :
    (r.advance errand d entry).1.handles = r.handles := by
  have harrive (h : Nat) : (r.arrive errand d.entry entry h).1.handles = r.handles :=
    congrArg Servers.handles (servers_arrive r errand d.entry entry h)
  unfold advance seek
  repeat' split
  all_goals first | exact harrive _ | rfl

theorem handles_setDelivery (r : Registry) (t : Nat) (errand : Errand) (ds : List Delivery)
    (i : Nat) (stage : DeliveryStage) :
    (r.setDelivery t errand ds i stage).handles = r.handles :=
  congrArg Servers.handles (servers_finish (r.setStage t _) t)

theorem attempts_setDelivery (r : Registry) (t : Nat) (errand : Errand) (ds : List Delivery)
    (i : Nat) (stage : DeliveryStage) :
    (r.setDelivery t errand ds i stage).attempts = r.attempts :=
  attempts_finish _ t

theorem outcome?_of_advance {outcome : Except ServerError Nat}
    (ho : (r.advance errand d entry).1.outcome? a = some outcome) :
    r.outcome? a = some outcome := by
  have harrive {h : Nat} (ho : (r.arrive errand d.entry entry h).1.outcome? a = some outcome) :
      r.outcome? a = some outcome := by
    rwa [outcome?, attempts_arrive] at ho
  have hbegin (ho : (r.beginAttempt d.entry entry).outcome? a = some outcome) :
      r.outcome? a = some outcome := by
    obtain ⟨attempt, hattempt, hout⟩ := Option.bind_eq_some_iff.1 ho
    obtain ⟨-, rfl⟩ | hattempt := getElem?_concat_cases hattempt
    · cases hout
    · exact Option.bind_eq_some_iff.2 ⟨attempt, hattempt, hout⟩
  unfold advance seek at ho
  repeat' split at ho
  all_goals first | exact harrive ho | exact hbegin ho | exact ho

theorem Serves.of_handles (hs : r.Serves e h) (hh : r'.handles = r.handles) : r'.Serves e h := by
  rwa [Serves, hh]

theorem running_of_alive (ha : r.alive h = true) (hr : r.Reachable) : r.Running h := by
  obtain ⟨handle, hh, hd⟩ := (Option.any_eq_true _ _).1 ha
  refine ⟨(List.getElem?_eq_some_iff.1 hh).1, fun hm => ?_⟩
  rw [(disposed_iff hr hh).2 hm] at hd
  cases hd

/-- A server that takes what it is sent is alive; where it does not, an opening goes off the
record. -/
theorem sent_spec (r : Registry) (t e h : Nat) (notice : Notice) (accepted : Bool) :
    (r.alive h = true ∧ r.sent t e h notice accepted =
        (r.note (.accepted t h notice), .done (.accepted h))) ∨
      (r.sent t e h notice accepted).2 = .done .declined ∧
        (r.sent t e h notice accepted).1.history = r.history ∧
        ∀ e' v, (r.sent t e h notice accepted).1.Opened e' v → r.Opened e' v ∧
          ¬ (e' = e ∧ ∃ language version text, notice = .didOpen v language version text) := by
  have halive : ((r.handles[h]?).map fun x => !x.disposed).getD false = r.alive h := by
    cases hh : r.handles[h]? <;> simp [alive, hh]
  unfold sent
  dsimp only
  rw [halive]
  split
  · rename_i hc
    exact .inl ⟨(Bool.and_eq_true_iff.1 hc).2, rfl⟩
  · right
    cases notice with
    | didOpen u language version text =>
      refine ⟨rfl, rfl, fun e' v ho => ⟨opened_of_modifyEntry ho fun _ x hm => ?_, ?_⟩⟩
      · exact (List.mem_filter.1 hm).1
      · rintro ⟨rfl, _, _, _, heq⟩
        cases heq
        obtain ⟨y, hy, hm⟩ := ho
        simp only [modifyEntry, List.getElem?_modify_eq] at hy
        obtain ⟨x, -, rfl⟩ := Option.map_eq_some_iff.1 hy
        simp [Entry.removeOpened] at hm
    | _ =>
      refine ⟨rfl, rfl, fun e' v ho => ⟨ho, ?_⟩⟩
      rintro ⟨-, _, _, _, heq⟩
      cases heq

end Registry

end Switchyard
