import Switchyard.Proofs.Registry.Deliveries

namespace Switchyard

open RegistryEvent

namespace Servers

variable {s s' s'' : Servers} {e e' h a : Nat} {unusable : Bool}

/-- An entry has no server and none on its way; it may have been ruled out or not. -/
def Vacant (s : Servers) (e : Nat) (unusable : Bool) : Prop :=
  ∃ slot, s.slots[e]? = some slot ∧ slot.state = .notStarted ∧ slot.unusable = unusable

theorem events_dispose_suffix (s : Servers) (h : Nat) : s.events <:+ (s.dispose h).events := by
  unfold dispose
  split
  · exact List.suffix_rfl
  · split
    · exact List.suffix_rfl
    · exact List.suffix_cons _ _

theorem Change.events_suffix (hc : Change s s') : s.events <:+ s'.events := by
  cases hc with
  | call => exact List.suffix_rfl
  | spawn => exact List.suffix_cons _ _
  | fail => exact List.suffix_cons _ _
  | failLate => exact List.suffix_rfl
  | install => exact List.suffix_rfl
  | discard => exact List.suffix_cons _ _
  | exit =>
    refine List.IsSuffix.trans ?_ (events_dispose_suffix _ _)
    exact List.suffix_cons _ _
  | close => exact events_dispose_suffix _ _

theorem Step.events_suffix (hs : Step s s') : s.events <:+ s'.events := by
  cases hs with
  | change hc => exact hc.events_suffix
  | shutdown => exact .trans (List.suffix_cons _ _) (List.suffix_append _ _)

theorem Steps.events_suffix (hs : Steps s s') : s.events <:+ s'.events := by
  induction hs with
  | refl => exact List.suffix_rfl
  | tail _ h ih => exact ih.trans h.events_suffix

theorem Step.spawns_le (hs : Step s s') (e : Nat) : s.spawns e ≤ s'.spawns e :=
  hs.events_suffix.sublist.countP_le

/-- What is done to the slot of an entry with a server, or with one on its way, leaves the others
vacant. -/
theorem Vacant.set {slot new : Slot} (hv : s.Vacant e unusable) (hs : s.slots[e']? = some slot)
    (hn : slot.state ≠ .notStarted) (hset : s'.slots = s.slots.set e' new) :
    s'.Vacant e unusable := by
  obtain ⟨old, hold, hstate, hu⟩ := hv
  have hne : e ≠ e' := by
    rintro rfl
    cases hs.symm.trans hold
    exact hn hstate
  exact ⟨old, hset ▸ getElem?_set_of_ne hold hne, hstate, hu⟩

theorem Vacant.of_slots (hv : s.Vacant e unusable) (hs : s'.slots = s.slots) :
    s'.Vacant e unusable := by
  rwa [Vacant, hs]

theorem spawns_dispose (s : Servers) (h e : Nat) : (s.dispose h).spawns e = s.spawns e := by
  unfold dispose
  split
  · rfl
  · split <;> rfl

/-- A vacant entry stays vacant, unless its server is started and it has not been ruled out. -/
theorem Change.vacant (hc : Change s s') (hi : s.Sound) (hv : s.Vacant e unusable) :
    (s'.Vacant e unusable ∧ s'.spawns e = s.spawns e) ∨
      (unusable = false ∧ s.spawns e < s'.spawns e) := by
  cases hc with
  | call => exact .inl ⟨hv, rfl⟩
  | @spawn e' slot hs hu hn =>
    obtain ⟨old, hold, hstate, huold⟩ := hv
    by_cases he : e' = e
    · subst he
      cases hs.symm.trans hold
      exact .inr ⟨huold.symm.trans hu, by simp [spawns, isSpawnOf]⟩
    · exact .inl ⟨⟨old, getElem?_set_of_ne hold (Ne.symm he), hstate, huold⟩,
        by simp [spawns, isSpawnOf, he]⟩
  | fail error ha hs hg =>
    refine .inl ⟨hv.set hs ?_ rfl, rfl⟩
    rw [hi.starting_of_current ha hs hg]
    intro h
    cases h
  | failLate => exact .inl ⟨hv, rfl⟩
  | install ha hs hg =>
    refine .inl ⟨hv.set hs ?_ rfl, rfl⟩
    rw [hi.starting_of_current ha hs hg]
    intro h
    cases h
  | discard => exact .inl ⟨hv, rfl⟩
  | exit hh ha hs hg hst =>
    refine .inl ⟨hv.set hs ?_ slots_dispose, spawns_dispose _ _ _⟩
    rw [hst]
    intro h
    cases h
  | close => exact .inl ⟨hv.of_slots slots_dispose, spawns_dispose _ _ _⟩

theorem Step.vacant (hs : Step s s') (hi : s.Sound) (hv : s.Vacant e unusable) :
    (s'.Vacant e unusable ∧ s'.spawns e = s.spawns e) ∨
      (unusable = false ∧ s.spawns e < s'.spawns e) := by
  cases hs with
  | change hc => exact hc.vacant hi hv
  | shutdown =>
    obtain ⟨slot, hslot, _, hu⟩ := hv
    exact .inl ⟨⟨slot.vacated, Sound.vacated_getElem? hslot, rfl, hu⟩,
      Paid.countP_shutDown (fun _ => rfl) _⟩

theorem Steps.vacant (hs : Steps s s') (hi : s.Sound) (hv : s.Vacant e unusable) :
    (s'.Vacant e unusable ∧ s'.spawns e = s.spawns e) ∨
      (unusable = false ∧ s.spawns e < s'.spawns e) := by
  induction hs with
  | refl => exact .inl ⟨hv, rfl⟩
  | tail hsteps hstep ih =>
    obtain ⟨hv, heq⟩ | ⟨hu, hlt⟩ := ih
    · rw [← heq]
      exact hstep.vacant (hi.steps hsteps) hv
    · exact .inr ⟨hu, Nat.lt_of_lt_of_le hlt (hstep.spawns_le e)⟩

theorem Steps.ruledOut (hs : Steps s s') (hi : s.Sound) (hv : s.Vacant e true) :
    s'.Vacant e true ∧ s'.spawns e = s.spawns e :=
  (hs.vacant hi hv).resolve_right nofun

theorem Change.no_server (hc : Change s s') (hi : s.Sound) (hv : s.Vacant e unusable)
    {attempt : StartAttempt} (ha : s'.attempts[a]? = some attempt) (he : attempt.entry = e)
    (ho : attempt.outcome = some (.ok h)) : s.attempts[a]? = some attempt := by
  cases hc with
  | call => exact ha
  | spawn =>
    obtain ⟨_, rfl⟩ | ha := getElem?_concat_cases ha
    · cases ho
    · exact ha
  | fail =>
    obtain ⟨_, rfl⟩ | ⟨_, ha⟩ := getElem?_set_cases ha
    · cases ho
    · exact ha
  | failLate =>
    obtain ⟨_, rfl⟩ | ⟨_, ha⟩ := getElem?_set_cases ha
    · cases ho
    · exact ha
  | install ha' hs hg =>
    obtain ⟨_, rfl⟩ | ⟨_, ha⟩ := getElem?_set_cases ha
    · obtain ⟨slot, hslot, hn, _⟩ := hv
      cases he
      cases hs.symm.trans hslot
      cases hn.symm.trans (hi.starting_of_current ha' hs hg)
    · exact ha
  | discard =>
    obtain ⟨_, rfl⟩ | ⟨_, ha⟩ := getElem?_set_cases ha
    · cases ho
    · exact ha
  | exit =>
    rw [attempts_dispose] at ha
    exact ha
  | close =>
    rw [show _ = s.attempts from attempts_dispose] at ha
    exact ha

theorem Steps.no_server (hs : Steps s s') (hi : s.Sound) (hv : s.Vacant e true)
    {attempt : StartAttempt} (ha : s'.attempts[a]? = some attempt) (he : attempt.entry = e)
    (ho : attempt.outcome = some (.ok h)) : s.attempts[a]? = some attempt := by
  induction hs with
  | refl => exact ha
  | tail hsteps hstep ih =>
    cases hstep with
    | change hc =>
      exact ih (hc.no_server (hi.steps hsteps) (Steps.ruledOut hsteps hi hv).1 ha he ho)
    | shutdown => exact ih ha

/-- An entry is ruled out only by a failure that no later attempt can mend. -/
def Earned (s : Servers) : Prop :=
  ∀ (e : Nat) (slot : Slot), s.slots[e]? = some slot → slot.unusable = true →
    ∃ error, .startFailed e error ∈ s.events ∧ error.isRetryable = false

namespace Earned

/-- What happened stays on record, and a slot that is changed keeps being ruled out or not. -/
theorem set {slot new : Slot} (hu : s.Earned) (hevents : s.events <:+ s'.events)
    (hs : s.slots[e]? = some slot) (hset : s'.slots = s.slots.set e new)
    (hn : new.unusable = slot.unusable) : s'.Earned := by
  intro e' new' hnew hun
  have hold : ∃ old, s.slots[e']? = some old ∧ old.unusable = true := by
    rw [hset] at hnew
    obtain ⟨rfl, rfl⟩ | ⟨_, hold⟩ := getElem?_set_cases hnew
    · exact ⟨slot, hs, hn ▸ hun⟩
    · exact ⟨new', hold, hun⟩
  obtain ⟨old, hold, hun⟩ := hold
  obtain ⟨error, hm, hr⟩ := hu e' old hold hun
  exact ⟨error, hevents.subset hm, hr⟩

theorem of_slots (hu : s.Earned) (hevents : s.events <:+ s'.events) (hs : s'.slots = s.slots) :
    s'.Earned := by
  intro e slot hslot hun
  obtain ⟨error, hm, hr⟩ := hu e slot (hs ▸ hslot) hun
  exact ⟨error, hevents.subset hm, hr⟩

theorem change (hu : s.Earned) (hc : Change s s') : s'.Earned := by
  have hevents := hc.events_suffix
  cases hc with
  | call => exact hu
  | spawn hs => exact hu.set hevents hs rfl rfl
  | @fail a e g slot error ha hs hg =>
    intro e' slot' hslot hun
    obtain ⟨rfl, rfl⟩ | ⟨_, hold⟩ := getElem?_set_cases hslot
    · exact ⟨error, List.mem_cons_self, by simpa using hun⟩
    · obtain ⟨error', hm, hr⟩ := hu e' slot' hold hun
      exact ⟨error', List.mem_cons_of_mem _ hm, hr⟩
  | failLate => exact hu
  | install ha hs => exact hu.set hevents hs rfl rfl
  | discard => exact hu.of_slots hevents rfl
  | exit hh ha hs => exact hu.set hevents hs slots_dispose rfl
  | close => exact hu.of_slots hevents slots_dispose

theorem steps (hu : s.Earned) (hs : Steps s s') : s'.Earned := by
  induction hs with
  | refl => exact hu
  | tail _ hstep ih =>
    have hevents := hstep.events_suffix
    cases hstep with
    | change hc => exact ih.change hc
    | shutdown =>
      intro e slot hslot hun
      obtain ⟨old, hold, rfl⟩ := Sound.getElem?_vacated hslot
      obtain ⟨error, hm, hr⟩ := ih e old hold hun
      exact ⟨error, hevents.subset hm, hr⟩

end Earned

end Servers

namespace Registry

variable {r : Registry} {e h a t i : Nat} {id : String} {entry : Entry}

/-- An entry has no server and none on its way; it may have been ruled out or not. -/
def Vacant (r : Registry) (e : Nat) (unusable : Bool) : Prop :=
  ∃ entry, r.entries[e]? = some entry ∧ entry.slot.state = .notStarted ∧
    entry.slot.unusable = unusable

theorem vacant_iff {unusable : Bool} :
    r.Vacant e unusable ↔ r.servers.Vacant e unusable := by
  constructor
  · rintro ⟨entry, he, hs, hu⟩
    exact ⟨entry.slot, slot_of_entry he, hs, hu⟩
  · rintro ⟨slot, hslot, hs, hu⟩
    simp only [servers, List.getElem?_map] at hslot
    obtain ⟨entry, he, rfl⟩ := Option.map_eq_some_iff.1 hslot
    exact ⟨entry, he, hs, hu⟩

theorem isEntry_iff : r.isEntry id e = true ↔
    ∃ entry, r.entries[e]? = some entry ∧ entry.config.id = id := by
  simp [isEntry, Option.any_eq_true]

theorem Reachable.isEntry_unique {e' : Nat} (hr : r.Reachable) (hid : r.isEntry id e = true)
    (hid' : r.isEntry id e' = true) : e' = e := by
  obtain ⟨entry, he, rfl⟩ := isEntry_iff.1 hid
  rw [isEntry_eq hr he] at hid'
  exact beq_iff_eq.1 hid'

theorem Reachable.spawns_eq (hr : r.Reachable) (hid : r.isEntry id e = true) :
    r.servers.spawns e = r.spawns id := by
  obtain ⟨entry, he, rfl⟩ := isEntry_iff.1 hid
  rw [spawns, Servers.spawns, isEntry_eq hr he]
  exact countP_events fun _ _ _ => rfl

theorem isEntry_run (hid : r.isEntry id e = true) (actions : List RegistryAction) :
    (r.run actions).isEntry id e = true :=
  (isEntry_before (servers_run r actions).before id e).trans hid

theorem Reachable.earned (hr : r.Reachable) : r.servers.Earned := by
  apply hr.induction (p := fun r => r.servers.Earned)
  · intro root configs watch commandExists handshakeMs e slot hs hu
    rw [slot_ofConfigs hs] at hu
    cases hu
  · intro r action _ hu
    exact hu.steps (servers_steps r action)

/-- Every failure so far of a start that no shutdown had overtaken was one that a later attempt can
mend. -/
def Mendable (r : Registry) (e : Nat) : Prop :=
  ∀ error, .startFailed e error ∈ r.history → error.isRetryable = true

theorem Mendable.usable (hm : r.Mendable e) (hr : r.Reachable)
    (he : r.entries[e]? = some entry) : entry.slot.unusable = false := by
  refine eq_false_of_ne_true fun hu => ?_
  obtain ⟨error, hfailed, hf⟩ := hr.earned e entry.slot (slot_of_entry he) hu
  rw [hm error ((mem_events rfl).1 hfailed)] at hf
  cases hf

theorem vacant_failAttempt (he : r.entries[e]? = some entry) (a g : Nat) (error : ServerError) :
    (r.failAttempt a ⟨e, g, none⟩ true error).Vacant e (!error.isRetryable) := by
  refine ⟨{ entry with slot := { entry.slot with
    state := .notStarted, unusable := !error.isRetryable } }, ?_, rfl, rfl⟩
  simp [failAttempt, endAttempt, modifyEntry, note, he]

/-- A start that fails leaves its entry vacant, and ruled out if no later attempt can succeed. -/
theorem UnderWay.spawned_failed (hu : r.UnderWay e a) (error : ServerError) :
    (r.step (.spawned a (.failed error))).Vacant e (!error.isRetryable) := by
  obtain ⟨entry, he, ha⟩ := hu
  simp only [step, spawned, ha, he, BEq.rfl]
  exact vacant_failAttempt he a _ error

theorem UnderWay.spawned_timedOut (hu : r.UnderWay e a) :
    (r.step (.spawned a .timedOut)).Vacant e false := by
  obtain ⟨entry, he, ha⟩ := hu
  simp only [step, spawned, ha, he, BEq.rfl]
  exact vacant_failAttempt he a _ _

theorem Installed.exit (hi : r.Installed e h) (hr : r.Reachable) :
    (r.step (.exit h)).Vacant e false := by
  obtain ⟨entry, he, hstate, hu⟩ := hi.usable hr
  have hh := hr.sound.started (slot_of_entry he) hstate
  have hh' : r.handles[h]? = some ⟨e, entry.slot.generation, true, false⟩ := hh
  refine ⟨{ entry.withState .notStarted with opened := [] }, ?_, rfl, hu⟩
  simp [step, Registry.exit, hh', he, hstate, modifyEntry, note]

/-- A server that has exited before it is listened to leaves its entry vacant. -/
theorem UnderWay.spawned_exited (hu : r.UnderWay e a) (hr : r.Reachable) :
    (r.step (.spawned a (.running true))).Vacant e false := by
  obtain ⟨entry, he, ha⟩ := hu
  have hexit : r.step (.spawned a (.running true)) =
      (r.step (.spawned a (.running false))).step (.exit r.handles.length) := by
    simp only [step, spawned, ha, he, BEq.rfl, install_exited, if_true]
  have hi : (r.step (.spawned a (.running false))).Installed e r.handles.length := by
    refine ⟨{ entry.withState (.started r.handles.length) with opened := [] }, ?_, rfl⟩
    simp [step, spawned, ha, he, install, modifyEntry, endAttempt]
  rw [hexit]
  exact hi.exit (hr.step _)

theorem vacant_shutdownAll (ht : r.tasks[t]? = some ⟨.shutdownAll, .begun⟩)
    (he : r.entries[e]? = some entry) : (r.step (.resume t)).Vacant e entry.slot.unusable := by
  have hs : (r.step (.resume t)).servers = r.servers.shutDown t := by
    simp only [step, resume, ht]
    exact servers_shutdownAll ht
  rw [vacant_iff, hs]
  exact ⟨entry.slot.vacated, Servers.Sound.vacated_getElem? (slot_of_entry he), rfl, rfl⟩

/-- Whoever asks for a server of a vacant entry has it started, unless the entry is ruled out. -/
theorem Asks.vacant (ha : r.Asks t i e) (hv : r.Vacant e false) :
    (r.step (.deliver t i)).history = .spawning e :: r.history ∧
      (r.step (.deliver t i)).UnderWay e r.attempts.length ∧
      (r.step (.deliver t i)).Awaits t i r.attempts.length := by
  obtain ⟨call, errand, ds, ht, hd, hc⟩ := ha
  obtain ⟨entry, he, hs, hu⟩ := hv
  have hseek : r.seek errand e entry = (r.beginAttempt e entry, .starting r.attempts.length) := by
    unfold seek
    split
    · exact absurd rfl (hc _)
    · simp [hu, hs]
  have hstep : r.step (.deliver t i) =
      (r.beginAttempt e entry).setDelivery t errand ds i (.starting r.attempts.length) := by
    simp only [step, deliver, ht, hd, he, advance, hseek]
  have ht' : (r.beginAttempt e entry).tasks[t]? = some ⟨call, .routing errand ds⟩ := ht
  rw [hstep]
  refine ⟨history_finish _ t, ?_, awaits_setDelivery ht' hd (.inl ⟨rfl, rfl, rfl⟩)⟩
  refine ⟨{ entry with slot := { entry.slot with
    state := .starting r.attempts.length, generation := entry.slot.generation + 1 } }, ?_, ?_⟩
  · rw [setDelivery, entries_finish]
    simp [setStage, beginAttempt, modifyEntry, note, he]
  · rw [setDelivery, attempts_finish]
    simp [setStage, beginAttempt, modifyEntry, note]

/-- Whoever asks for a server of an entry that is ruled out is told so, and nothing is started. -/
theorem Asks.ruledOut (ha : r.Asks t i e) (hv : r.Vacant e true) (hid : r.isEntry id e = true) :
    (r.step (.deliver t i)).history = r.history ∧ r.GoesOn t i (.error (.unusable id)) := by
  obtain ⟨call, errand, ds, ht, hd, hc⟩ := ha
  obtain ⟨entry, he, rfl⟩ := isEntry_iff.1 hid
  obtain ⟨entry', he', _, hu⟩ := hv
  cases he.symm.trans he'
  have hseek : r.seek errand e entry = (r, .done (.failed (.unusable entry.config.id))) := by
    unfold seek
    split
    · exact absurd rfl (hc _)
    · simp [hu]
  constructor
  · simp only [step, deliver, ht, hd, he, advance, hseek, setDelivery]
    exact history_finish _ t
  · refine ⟨call, errand, ds, _, entry, ht, hd, he, ?_⟩
    simp only [advance, hseek]
    rfl

theorem Vacant.run (hv : r.Vacant e false) (hr : r.Reachable) (hid : r.isEntry id e = true)
    {more : List RegistryAction} (hn : (r.run more).spawns id = r.spawns id) :
    (r.run more).Vacant e false := by
  rw [vacant_iff] at hv ⊢
  obtain ⟨hv, _⟩ | ⟨_, hlt⟩ := Servers.Steps.vacant (servers_run r more) hr.sound hv
  · exact hv
  · rw [hr.spawns_eq hid, (hr.run more).spawns_eq (isEntry_run hid more), hn] at hlt
    exact absurd hlt (Nat.lt_irrefl _)

/-- An entry that is ruled out stays so, and its server is not started again. -/
theorem Vacant.ruledOut_run (hv : r.Vacant e true) (hr : r.Reachable)
    (hid : r.isEntry id e = true) (more : List RegistryAction) :
    (r.run more).Vacant e true ∧ (r.run more).spawns id = r.spawns id := by
  rw [vacant_iff] at hv ⊢
  obtain ⟨hv, hs⟩ := Servers.Steps.ruledOut (servers_run r more) hr.sound hv
  rw [hr.spawns_eq hid, (hr.run more).spawns_eq (isEntry_run hid more)] at hs
  exact ⟨hv, hs⟩

end Registry
end Switchyard
