import Switchyard.Proofs.Registry.Tasks

namespace Switchyard

namespace RegistryEvent

def Harmless (event : RegistryEvent) : Prop :=
  ∀ h, event ≠ .disposed h ∧ event ≠ .shuttingDown h

theorem harmless_spawning (e : Nat) : Harmless (.spawning e) := fun _ => ⟨nofun, nofun⟩

theorem harmless_startFailed (e : Nat) (error : ServerError) : Harmless (.startFailed e error) :=
  fun _ => ⟨nofun, nofun⟩

theorem harmless_exited (h : Nat) : Harmless (.exited h) := fun _ => ⟨nofun, nofun⟩

end RegistryEvent

namespace Servers

variable {s s' : Servers} {e h i t : Nat} {slot : Slot} {handle : Handle}

/-- How the events fit with handles and slots. A handle is shut down once at most, and not after
its end. -/
structure Recorded (s : Servers) : Prop where
  disposed {h : Nat} {handle : Handle} : s.handles[h]? = some handle →
    (handle.disposed = true ↔ .disposed h ∈ s.events)
  known {h : Nat} : .disposed h ∈ s.events → h < s.handles.length
  shutDown {h : Nat} : .shuttingDown h ∈ s.events →
    ∃ handle slot, s.handles[h]? = some handle ∧ s.slots[handle.entry]? = some slot ∧
      handle.generation < slot.generation
  ordered : s.events.Pairwise fun later earlier =>
    ∀ h, later = .shuttingDown h → earlier ≠ .shuttingDown h ∧ earlier ≠ .disposed h

namespace Recorded

theorem grow (hr : s.Recorded) (hg : Kept Slot.Before s.slots s'.slots)
    (hh : s'.handles = s.handles) (he : s'.events = s.events) : s'.Recorded where
  disposed := by
    intro h handle hh'
    rw [he]
    exact hr.disposed (hh ▸ hh')
  known := by
    intro h hm
    rw [hh]
    exact hr.known (he ▸ hm)
  shutDown := by
    intro h hm
    obtain ⟨handle, slot, hh', hs, hlt⟩ := hr.shutDown (he ▸ hm)
    obtain ⟨slot', hs', hle⟩ := hg _ _ hs
    exact ⟨handle, slot', hh ▸ hh', hs', Nat.lt_of_lt_of_le hlt hle⟩
  ordered := he ▸ hr.ordered

theorem note (hr : s.Recorded) {event : RegistryEvent} (he : event.Harmless) :
    Recorded { s with events := event :: s.events } where
  disposed := by
    intro h handle hh
    rw [hr.disposed hh, List.mem_cons]
    exact ⟨.inr, fun hm => hm.resolve_left (he h).1.symm⟩
  known hm := hr.known ((List.mem_cons.1 hm).resolve_left (he _).1.symm)
  shutDown hm := hr.shutDown ((List.mem_cons.1 hm).resolve_left (he _).2.symm)
  ordered := List.pairwise_cons.2 ⟨fun _ _ h hs => absurd hs (he h).2, hr.ordered⟩

theorem dispose (hr : s.Recorded) (i : Nat) : (s.dispose i).Recorded := by
  unfold Servers.dispose
  split
  · exact hr
  rename_i old hold
  split
  · exact hr
  constructor
  case disposed =>
    intro h handle hh
    rw [List.mem_cons]
    obtain ⟨rfl, rfl⟩ | ⟨hne, hh⟩ := getElem?_set_cases hh
    · exact ⟨fun _ => .inl rfl, fun _ => rfl⟩
    · rw [hr.disposed hh]
      refine ⟨.inr, fun hm => hm.resolve_left fun heq => hne ?_⟩
      cases heq
      rfl
  case known =>
    intro h hm
    rw [List.length_set]
    obtain hm | hm := List.mem_cons.1 hm
    · cases hm
      exact (List.getElem?_eq_some_iff.1 hold).1
    · exact hr.known hm
  case shutDown =>
    intro h hm
    obtain hm | hm := List.mem_cons.1 hm
    · cases hm
    · obtain ⟨handle, slot, hh, hs, hg⟩ := hr.shutDown hm
      obtain ⟨_, rfl, hset⟩ | ⟨_, hset⟩ := getElem?_set_or hold hh
      · exact ⟨_, slot, hset _, hs, hg⟩
      · exact ⟨handle, slot, hset _, hs, hg⟩
  case ordered => exact List.pairwise_cons.2 ⟨fun _ _ _ => nofun, hr.ordered⟩

theorem concat (hr : s.Recorded) (hd : handle.disposed = false) :
    Recorded { s with handles := s.handles ++ [handle] } where
  disposed := by
    intro h handle' hh
    obtain ⟨rfl, rfl⟩ | hh := getElem?_concat_cases hh
    · rw [hd]
      exact ⟨nofun, fun hm => absurd (hr.known hm) (Nat.lt_irrefl _)⟩
    · exact hr.disposed hh
  known hm := by
    rw [List.length_append]
    exact Nat.lt_add_right _ (hr.known hm)
  shutDown hm := by
    obtain ⟨handle', slot, hh, hs, hg⟩ := hr.shutDown hm
    exact ⟨handle', slot, getElem?_append_of_some hh, hs, hg⟩
  ordered := hr.ordered

end Recorded

theorem events_dispose {event : RegistryEvent} (he : ∀ i, event ≠ .disposed i) :
    event ∈ (s.dispose h).events ↔ event ∈ s.events := by
  unfold dispose
  split
  · rfl
  · split
    · rfl
    · exact List.mem_cons.trans (or_iff_right (he h))

theorem dispose_concat (s : Servers) (e g : Nat) (attended : Bool) :
    dispose { s with handles := s.handles ++ [(⟨e, g, attended, false⟩ : Handle)] }
        s.handles.length =
      { s with
        handles := s.handles ++ [(⟨e, g, attended, true⟩ : Handle)]
        events := .disposed s.handles.length :: s.events } := by
  simp [dispose, List.set_append_right]

theorem Sound.installed_nodup (hi : s.Sound) : s.installed.Nodup := by
  refine List.pairwise_filterMap.2 (List.pairwise_iff_getElem.2 ?_)
  intro i j hi' hj' hij h hh h' hh' heq
  subst heq
  have hsi := hi.started (List.getElem?_eq_getElem hi') (Slot.handle?_eq_some.1 hh)
  have hsj := hi.started (List.getElem?_eq_getElem hj') (Slot.handle?_eq_some.1 hh')
  have he := congrArg Handle.entry (Option.some.inj (hsi.symm.trans hsj))
  exact Nat.ne_of_lt hij he

namespace Recorded

theorem change (hr : s.Recorded) (h : Change s s') : s'.Recorded := by
  cases h with
  | call => exact hr.grow (.refl .refl _) rfl rfl
  | spawn hs _ _ =>
    refine (hr.note (RegistryEvent.harmless_spawning _)).grow (.set .refl hs ?_) rfl rfl
    exact Nat.le_succ _
  | fail error _ hs _ =>
    refine (hr.note (RegistryEvent.harmless_startFailed _ error)).grow (.set .refl hs ?_) rfl rfl
    exact Nat.le_refl _
  | failLate => exact hr.grow (.refl .refl _) rfl rfl
  | install _ hs _ =>
    refine (hr.concat rfl).grow (.set .refl hs ?_) rfl rfl
    exact Nat.le_refl _
  | @discard a e g slot id _ _ _ =>
    have hc : Recorded { s with handles := s.handles ++ [⟨e, g, false, false⟩] } := hr.concat rfl
    have hc := hc.dispose s.handles.length
    rw [dispose_concat] at hc
    exact hc.grow (.refl .refl _) rfl rfl
  | @exit h i handle slot _ _ hs _ _ =>
    have hg : Recorded { s with
        slots := s.slots.set handle.entry { slot with state := .notStarted } } :=
      hr.grow (.set .refl hs (Nat.le_refl _)) rfl rfl
    exact (hg.note (RegistryEvent.harmless_exited i)).dispose i
  | close _ _ => exact (hr.dispose _).grow (.refl .refl _) rfl rfl

theorem shutdown (hr : s.Recorded) (hi : s.Sound) (t : Nat) : (s.shutDown t).Recorded where
  disposed := by
    intro h handle hh
    rw [hr.disposed hh]
    simp [Servers.shutDown]
  known := by
    intro h hm
    apply hr.known (h := h)
    simpa [Servers.shutDown] using hm
  shutDown := by
    intro h hm
    have hm : h ∈ s.installed ∨ .shuttingDown h ∈ s.events := by
      simpa [Servers.shutDown] using hm
    obtain hm | hm := hm
    · obtain ⟨e, slot, hs, hst⟩ := mem_installed.1 hm
      exact ⟨_, _, hi.started hs hst, Sound.vacated_getElem? hs, Nat.lt_succ_self _⟩
    · obtain ⟨handle, slot, hh, hs, hg⟩ := hr.shutDown hm
      exact ⟨handle, _, hh, Sound.vacated_getElem? hs, Nat.lt_succ_of_lt hg⟩
  ordered := by
    refine List.pairwise_append.2 ⟨?_, ?_, ?_⟩
    · rw [List.pairwise_reverse, List.pairwise_map]
      apply hi.installed_nodup.imp
      intro h h' hne i heq
      cases heq
      refine ⟨fun heq => hne ?_, nofun⟩
      cases heq
      rfl
    · exact List.pairwise_cons.2 ⟨fun _ _ _ => nofun, hr.ordered⟩
    · intro later hl earlier he h heq
      subst heq
      have hm : h ∈ s.installed := by simpa using hl
      obtain ⟨e, slot, hs, hst⟩ := mem_installed.1 hm
      have hh := hi.started hs hst
      obtain rfl | he := List.mem_cons.1 he
      · exact ⟨nofun, nofun⟩
      -- An earlier shutdown would have left the generation of the slot behind.
      constructor
      · rintro rfl
        obtain ⟨handle, slot', hh', hs', hg⟩ := hr.shutDown he
        cases hh.symm.trans hh'
        cases hs.symm.trans hs'
        exact Nat.lt_irrefl _ hg
      · rintro rfl
        cases (hr.disposed hh).2 he

theorem step (hr : s.Recorded) (hi : s.Sound) (h : Step s s') : s'.Recorded := by
  cases h with
  | change h => exact hr.change h
  | shutdown => exact hr.shutdown hi _

theorem steps (hr : s.Recorded) (hi : s.Sound) (h : Steps s s') : s'.Recorded := by
  induction h with
  | refl => exact hr
  | tail h h' ih => exact ih.step (hi.steps h) h'

end Recorded

end Servers

namespace Registry

variable {r : Registry} {e h t : Nat}

def Installed (r : Registry) (e h : Nat) : Prop :=
  ∃ entry, r.entries[e]? = some entry ∧ entry.slot.state = .started h

def Running (r : Registry) (h : Nat) : Prop := h < r.handles.length ∧ .disposed h ∉ r.history

structure AtRest (r : Registry) : Prop where
  tasks {task : Task} : task ∈ r.tasks → ∃ result, task.stage = .done result
  attempts {attempt : StartAttempt} : attempt ∈ r.attempts → attempt.outcome ≠ none

theorem mem_events {event : RegistryEvent} (h : event.isAcceptance = false) :
    event ∈ r.servers.events ↔ event ∈ r.history := by
  simp [servers, h]

theorem recorded_ofConfigs (root : Path) (configs : List ServerConfig)
    (watch : Option WatchFilter) (commandExists : String → Bool) (handshakeMs : Nat) :
    (ofConfigs root configs watch commandExists handshakeMs).servers.Recorded where
  disposed := nofun
  known := nofun
  shutDown := nofun
  ordered := .nil

theorem Reachable.recorded (hr : r.Reachable) : r.servers.Recorded := by
  apply hr.induction (p := fun r => r.servers.Recorded) recorded_ofConfigs
  intro r action hr hi
  exact hi.steps hr.sound (servers_steps r action)

theorem installed_iff : (∃ e, r.Installed e h) ↔ h ∈ r.servers.installed := by
  rw [Servers.mem_installed]
  constructor
  · rintro ⟨e, entry, he, hs⟩
    exact ⟨e, entry.slot, slot_of_entry he, hs⟩
  · rintro ⟨e, slot, he, hs⟩
    simp only [servers, List.getElem?_map] at he
    obtain ⟨entry, hx, rfl⟩ := Option.map_eq_some_iff.1 he
    exact ⟨e, entry, hx, hs⟩

theorem Installed.handle (hi : r.Installed e h) (hr : r.Reachable) :
    ∃ g, r.handles[h]? = some ⟨e, g, true, false⟩ := by
  obtain ⟨entry, he, hs⟩ := hi
  exact ⟨_, hr.sound.started (slot_of_entry he) hs⟩

theorem Installed.unique {e' : Nat} (hi : r.Installed e h) (hi' : r.Installed e' h)
    (hr : r.Reachable) : e = e' := by
  obtain ⟨g, hh⟩ := hi.handle hr
  obtain ⟨g', hh'⟩ := hi'.handle hr
  exact congrArg Handle.entry (Option.some.inj (hh.symm.trans hh'))

theorem Installed.handle_unique {h' : Nat} (hi : r.Installed e h) (hi' : r.Installed e h') :
    h = h' := by
  obtain ⟨entry, he, hs⟩ := hi
  obtain ⟨entry', he', hs'⟩ := hi'
  cases he.symm.trans he'
  cases hs.symm.trans hs'
  rfl

theorem disposed_iff {handle : Handle} (hr : r.Reachable) (hh : r.handles[h]? = some handle) :
    handle.disposed = true ↔ .disposed h ∈ r.history := by
  rw [← mem_events rfl]
  exact hr.recorded.disposed hh

theorem Installed.running (hi : r.Installed e h) (hr : r.Reachable) : r.Running h := by
  obtain ⟨g, hh⟩ := hi.handle hr
  refine ⟨(List.getElem?_eq_some_iff.1 hh).1, fun hd => ?_⟩
  cases (disposed_iff hr hh).2 hd

theorem Running.installed_or_closing (hu : r.Running h) (hr : r.Reachable) :
    (∃ e, r.Installed e h) ∨ ∃ task handles, task ∈ r.tasks ∧ task.stage = .closing handles ∧
      h ∈ handles := by
  obtain ⟨hl, hd⟩ := hu
  have hh := List.getElem?_eq_getElem hl
  have hf : r.handles[h].disposed = false := by
    rw [← disposed_iff hr hh] at hd
    exact eq_false_of_ne_true hd
  obtain ⟨slot, hs, _⟩ := hr.sound.handle hh
  by_cases hst : slot.state = .started h
  · exact .inl (installed_iff.2 (Servers.mem_installed.2 ⟨_, slot, hs, hst⟩))
  · obtain ⟨t, hs, ht, hm⟩ := hr.sound.owned hh hf hs hst
    simp only [servers, List.getElem?_map] at ht
    obtain ⟨task, hx, rfl⟩ := Option.map_eq_some_iff.1 ht
    cases hstage : task.stage with
    | closing handles =>
      rw [hstage] at hm
      exact .inr ⟨task, handles, List.mem_of_getElem? hx, hstage, hm⟩
    | _ =>
      rw [hstage] at hm
      cases hm

theorem running_iff_installed (hr : r.Reachable) (hq : r.AtRest) :
    r.Running h ↔ ∃ e, r.Installed e h := by
  constructor
  · intro hu
    obtain hi | ⟨task, handles, ht, hs, _⟩ := hu.installed_or_closing hr
    · exact hi
    · obtain ⟨result, hs'⟩ := hq.tasks ht
      cases hs.symm.trans hs'
  · rintro ⟨e, hi⟩
    exact hi.running hr

/-- A shutdown of a server that has one comes before its end, and is the only one. -/
theorem shuttingDown_once {later earlier : List RegistryEvent} (hr : r.Reachable)
    (hh : r.history = later ++ .shuttingDown h :: earlier) :
    .shuttingDown h ∉ earlier ∧ .disposed h ∉ earlier := by
  have ho := hr.recorded.ordered
  simp only [servers, hh, List.filter_append] at ho
  rw [List.filter_cons_of_pos rfl] at ho
  have hp := (List.pairwise_cons.1 (List.pairwise_append.1 ho).2.1).1
  constructor
  · intro hm
    exact (hp _ (List.mem_filter.2 ⟨hm, rfl⟩) h rfl).1 rfl
  · intro hm
    exact (hp _ (List.mem_filter.2 ⟨hm, rfl⟩) h rfl).2 rfl

end Registry

namespace Servers

theorem Change.shuttingDown {s s' : Servers} {h : Nat} (hc : Change s s') :
    .shuttingDown h ∈ s'.events ↔ .shuttingDown h ∈ s.events := by
  cases hc with
  | exit => simp [events_dispose]
  | close => simp [events_dispose]
  | _ => simp

theorem Changes.shuttingDown {s s' : Servers} {h : Nat} (hc : Changes s s') :
    .shuttingDown h ∈ s'.events ↔ .shuttingDown h ∈ s.events := by
  induction hc with
  | refl => rfl
  | tail _ hc ih => exact hc.shuttingDown.trans ih

end Servers

namespace Registry

variable {r : Registry} {e h t : Nat}

/-- Only a task that is to shut down all servers shuts one down, and only one that an entry has. -/
theorem shuttingDown_step {action : RegistryAction} (hn : .shuttingDown h ∉ r.history)
    (hs : .shuttingDown h ∈ (r.step action).history) :
    ∃ t e, action = .resume t ∧ r.tasks[t]? = some ⟨.shutdownAll, .begun⟩ ∧ r.Installed e h := by
  rw [← mem_events rfl] at hn hs
  obtain hc | ⟨t, ha, ht, hsd⟩ := servers_step r action
  · exact absurd (hc.shuttingDown.1 hs) hn
  · rw [hsd] at hs
    have hm : h ∈ r.servers.installed := by
      simpa [Servers.shutDown, hn] using hs
    obtain ⟨e, hi⟩ := installed_iff.2 hm
    exact ⟨t, e, ha, ht, hi⟩

theorem spawned_eq_self {a : Nat} (ha : ∀ attempt, r.attempts[a]? = some attempt →
    attempt.outcome ≠ none) (outcome : SpawnOutcome) : r.spawned a outcome = r := by
  unfold spawned
  split
  · rfl
  · rename_i h
    split
    · rename_i h'
      exact absurd h' (ha _ h)
    · rfl

theorem exit_eq_self (hn : ∀ e h, ¬ r.Installed e h) (h : Nat) : r.exit h = r := by
  unfold exit
  split
  · rfl
  split
  · rfl
  rename_i entry he
  split
  · split
    · rename_i hs
      exact absurd ⟨entry, he, hs⟩ (hn _ _)
    · rfl
  · rfl

@[simp] theorem attempts_dispose (r : Registry) (h : Nat) :
    (r.dispose h).attempts = r.attempts := by
  unfold dispose
  repeat' split
  all_goals rfl

@[simp] theorem entries_dispose (r : Registry) (h : Nat) :
    (r.dispose h).entries = r.entries := by
  unfold dispose
  repeat' split
  all_goals rfl

@[simp] theorem attempts_exit (r : Registry) (h : Nat) : (r.exit h).attempts = r.attempts := by
  unfold exit
  repeat' split
  all_goals simp [note, modifyEntry]

/-- A task shuts down all servers, or is about to, and nothing else is under way. -/
structure ShutdownAlone (r : Registry) (t : Nat) : Prop where
  others {u : Nat} {task : Task} : r.tasks[u]? = some task → u ≠ t →
    ∃ result, task.stage = .done result
  attempts {a : Nat} {attempt : StartAttempt} : r.attempts[a]? = some attempt →
    attempt.outcome ≠ none
  own : r.tasks[t]? = some ⟨.shutdownAll, .begun⟩ ∨
    ((∃ handles, r.tasks[t]? = some ⟨.shutdownAll, .closing handles⟩) ∨
      ∃ result, r.tasks[t]? = some ⟨.shutdownAll, .done result⟩) ∧ ∀ e h, ¬ r.Installed e h

namespace ShutdownAlone

theorem stage {u : Nat} {task : Task} (hs : r.ShutdownAlone t) (hu : r.tasks[u]? = some task) :
    task.stage = .begun ∨ (∃ handles, task.stage = .closing handles) ∨
      ∃ result, task.stage = .done result := by
  by_cases hne : u = t
  · subst hne
    obtain h | ⟨⟨handles, h⟩ | ⟨result, h⟩, _⟩ := hs.own
    · cases hu.symm.trans h
      exact .inl rfl
    · cases hu.symm.trans h
      exact .inr (.inl ⟨handles, rfl⟩)
    · cases hu.symm.trans h
      exact .inr (.inr ⟨result, rfl⟩)
  · exact .inr (.inr (hs.others hu hne))

theorem call (hq : r.AtRest) : (r.step (.call .shutdownAll)).ShutdownAlone r.tasks.length where
  others := by
    intro u task hu hne
    obtain ⟨rfl, _⟩ | hu := getElem?_concat_cases hu
    · exact absurd rfl hne
    · exact hq.tasks (List.mem_of_getElem? hu)
  attempts ha := hq.attempts (List.mem_of_getElem? ha)
  own := .inl List.getElem?_concat_length

theorem of_same {r' : Registry} (hs : r.ShutdownAlone t) (ht : r'.tasks = r.tasks)
    (ha : r'.attempts = r.attempts) (he : r'.entries = r.entries) : r'.ShutdownAlone t where
  others := by
    rw [ht]
    exact hs.others
  attempts := by
    rw [ha]
    exact hs.attempts
  own := by
    simp only [Installed, ht, he]
    exact hs.own

theorem setStage {r' : Registry} {stage : TaskStage} (hs : r.ShutdownAlone t)
    (ht : r'.tasks = r.tasks) (ha : r'.attempts = r.attempts) (hn : ∀ e h, ¬ r'.Installed e h)
    (hc : (∃ handles, stage = .closing handles) ∨ ∃ result, stage = .done result) :
    (r'.setStage t stage).ShutdownAlone t where
  others := by
    intro u task hu hne
    simp only [Registry.setStage, ht] at hu
    rw [List.getElem?_modify_ne _ _ (Ne.symm hne)] at hu
    exact hs.others hu hne
  attempts := by
    intro a attempt h
    simp only [Registry.setStage, ha] at h
    exact hs.attempts h
  own := by
    have hcall : ∃ stage, r.tasks[t]? = some ⟨.shutdownAll, stage⟩ := by
      obtain h | ⟨⟨_, h⟩ | ⟨_, h⟩, _⟩ := hs.own
      · exact ⟨_, h⟩
      · exact ⟨_, h⟩
      · exact ⟨_, h⟩
    obtain ⟨old, hold⟩ := hcall
    have hnew : (r'.setStage t stage).tasks[t]? = some ⟨.shutdownAll, stage⟩ := by
      simp [Registry.setStage, ht, hold]
    refine .inr ⟨?_, hn⟩
    obtain ⟨handles, rfl⟩ | ⟨result, rfl⟩ := hc
    · exact .inl ⟨handles, hnew⟩
    · exact .inr ⟨result, hnew⟩

theorem begin_shutdownAll (hs : r.ShutdownAlone t) :
    (r.begin t .shutdownAll).ShutdownAlone t := by
  have hn : ∀ e h, ¬ (r.takeAll).1.Installed e h := by
    rintro e h ⟨entry, he, hst⟩
    rw [takeAll_eq, List.getElem?_map] at he
    obtain ⟨old, _, rfl⟩ := Option.map_eq_some_iff.1 he
    cases hst
  have ht : (r.takeAll).1.tasks = r.tasks := by rw [takeAll_eq]
  have ha : (r.takeAll).1.attempts = r.attempts := by rw [takeAll_eq]
  apply hs.setStage ht ha hn
  split
  · exact .inr ⟨_, rfl⟩
  · exact .inl ⟨_, rfl⟩

theorem resume (hs : r.ShutdownAlone t) (u : Nat) : (r.resume u).ShutdownAlone t := by
  by_cases hb : ∃ call, r.tasks[u]? = some ⟨call, .begun⟩
  · obtain ⟨call, hb⟩ := hb
    have hu : u = t := by
      by_contra hne
      obtain ⟨result, h⟩ := hs.others hb hne
      cases h
    subst hu
    have hc : call = .shutdownAll := by
      obtain h | ⟨⟨_, h⟩ | ⟨_, h⟩, _⟩ := hs.own
      · cases hb.symm.trans h
        rfl
      · cases hb.symm.trans h
      · cases hb.symm.trans h
    subst hc
    unfold Registry.resume
    rw [hb]
    exact hs.begin_shutdownAll
  · rw [resume_eq_self]
    · exact hs
    · intro call h
      exact hb ⟨call, h⟩
    · intro call event path uri h
      obtain h | ⟨_, h⟩ | ⟨_, h⟩ := hs.stage h <;> cases h

theorem close (hs : r.ShutdownAlone t) (u h : Nat) : (r.close u h).ShutdownAlone t := by
  unfold Registry.close
  split
  · rename_i call handles hu
    split
    · have hut : u = t := by
        by_contra hne
        obtain ⟨result, h⟩ := hs.others hu hne
        cases h
      subst hut
      have hn : ∀ e i, ¬ r.Installed e i := by
        obtain h | ⟨_, hn⟩ := hs.own
        · cases hu.symm.trans h
        · exact hn
      have hn' : ∀ e i, ¬ (r.dispose h).Installed e i := by
        simpa only [Installed, entries_dispose] using hn
      apply hs.setStage (tasks_dispose r h) (attempts_dispose r h) hn'
      split
      · exact .inr ⟨_, rfl⟩
      · exact .inl ⟨_, rfl⟩
    · exact hs
  · exact hs

theorem exit (hs : r.ShutdownAlone t) (h : Nat) : (r.exit h).ShutdownAlone t where
  others := by
    rw [tasks_exit]
    exact hs.others
  attempts := by
    rw [attempts_exit]
    exact hs.attempts
  own := by
    rw [tasks_exit]
    obtain hb | ⟨ht, hn⟩ := hs.own
    · exact .inl hb
    · rw [exit_eq_self hn]
      exact .inr ⟨ht, hn⟩

theorem step {action : RegistryAction} (hs : r.ShutdownAlone t)
    (hc : ∀ call, action ≠ .call call) : (r.step action).ShutdownAlone t := by
  have hr (u : Nat) : ∀ call errand ds, r.tasks[u]? ≠ some ⟨call, .routing errand ds⟩ := by
    intro call errand ds h
    obtain h | ⟨_, h⟩ | ⟨_, h⟩ := hs.stage h <;> cases h
  cases action with
  | call call => exact absurd rfl (hc call)
  | resume u => exact hs.resume u
  | read u result =>
    have hn : r.step (.read u result) = r := by
      refine read_eq_self ?_ result
      intro call event path uri h
      obtain h | ⟨_, h⟩ | ⟨_, h⟩ := hs.stage h <;> cases h
    rwa [hn]
  | deliver u d =>
    have hn : r.step (.deliver u d) = r := deliver_eq_self (hr u) d
    rwa [hn]
  | sent u d accepted =>
    have hn : r.step (.sent u d accepted) = r := endSending_eq_self (hr u) d accepted
    rwa [hn]
  | spawned a outcome =>
    have hn : r.step (.spawned a outcome) = r :=
      spawned_eq_self (fun _ ha => hs.attempts ha) outcome
    rwa [hn]
  | closed u h => exact hs.close u h
  | exit h => exact hs.exit h
  | notify h method params =>
    obtain ⟨hub, heq⟩ := receive_eq r h method params
    have hn : r.step (.notify h method params) = { r with hub } := heq
    rw [hn]
    exact hs.of_same rfl rfl rfl
  | hub call => exact hs.of_same rfl rfl rfl

theorem run {actions : List RegistryAction} (hs : r.ShutdownAlone t)
    (hc : ∀ action ∈ actions, ∀ call, action ≠ .call call) : (r.run actions).ShutdownAlone t := by
  induction actions generalizing r with
  | nil => exact hs
  | cons action actions ih =>
    apply ih (hs.step (hc action List.mem_cons_self))
    intro other hm
    exact hc other (List.mem_cons_of_mem _ hm)

theorem not_running {result : Except ServerError RegistryReply} (hs : r.ShutdownAlone t)
    (hr : r.Reachable) (hd : r.tasks[t]? = some ⟨.shutdownAll, .done result⟩) (h : Nat) :
    ¬ r.Running h := by
  have hq : r.AtRest := by
    constructor
    · intro task hm
      obtain ⟨u, hu⟩ := List.mem_iff_getElem?.1 hm
      by_cases hne : u = t
      · subst hne
        cases hu.symm.trans hd
        exact ⟨result, rfl⟩
      · exact hs.others hu hne
    · intro attempt hm
      obtain ⟨a, ha⟩ := List.mem_iff_getElem?.1 hm
      exact hs.attempts ha
  rw [running_iff_installed hr hq]
  rintro ⟨e, hi⟩
  obtain h | ⟨_, hn⟩ := hs.own
  · cases hd.symm.trans h
  · exact hn e h hi

end ShutdownAlone

/-- No server is leaked. At rest the servers that run are those in the slots, one for an entry at
most; a shutdown is asked of a server once at most, by a shutdown of all servers that finds it in
its slot, and before its end; and after such a shutdown with nothing else under way none runs. -/
theorem no_server_leaks (hr : r.Reachable) :
    (r.AtRest → ∀ h, r.Running h ↔ ∃ e, r.Installed e h) ∧
      (∀ e e' h h', r.Installed e h → r.Installed e' h' → (e = e' ↔ h = h')) ∧
      (∀ h later earlier, r.history = later ++ .shuttingDown h :: earlier →
        .shuttingDown h ∉ earlier ∧ .disposed h ∉ earlier) ∧
      (∀ h action, .shuttingDown h ∉ r.history → .shuttingDown h ∈ (r.step action).history →
        ∃ t e, action = .resume t ∧ r.tasks[t]? = some ⟨.shutdownAll, .begun⟩ ∧
          r.Installed e h) ∧
      (r.AtRest → ∀ actions result, (∀ action ∈ actions, ∀ call, action ≠ .call call) →
        ((r.step (.call .shutdownAll)).run actions).tasks[r.tasks.length]? =
          some ⟨.shutdownAll, .done result⟩ →
        ∀ h, ¬ ((r.step (.call .shutdownAll)).run actions).Running h) := by
  refine ⟨?_, ?_, ?_, ?_, ?_⟩
  · intro hq h
    exact running_iff_installed hr hq
  · intro e e' h h' hi hi'
    constructor
    · rintro rfl
      exact hi.handle_unique hi'
    · rintro rfl
      exact hi.unique hi' hr
  · intro h later earlier hh
    exact shuttingDown_once hr hh
  · intro h action hn hs
    exact shuttingDown_step hn hs
  · intro hq actions result hc hd
    exact ((ShutdownAlone.call hq).run hc).not_running ((hr.step _).run actions) hd

theorem no_server_leaks_started : oneStarted.Running 0 ∧
    ¬ ((oneStarted.step (.call .shutdownAll)).run [.resume 1, .closed 1 0]).Running 0 := by
  have hr : oneStarted.Reachable := reachable_oneServer _
  have ht : oneStarted.tasks = [⟨.start "ts", .done (.ok (.handle 0))⟩] := rfl
  have ha : oneStarted.attempts = [⟨0, 1, some (.ok 0)⟩] := rfl
  have hq : oneStarted.AtRest := by
    constructor
    · intro task hm
      rw [ht, List.mem_singleton] at hm
      exact ⟨_, congrArg Task.stage hm⟩
    · intro attempt hm
      rw [ha, List.mem_singleton] at hm
      rw [hm]
      exact nofun
  obtain ⟨hrun, _, _, _, hdown⟩ := no_server_leaks hr
  refine ⟨(hrun hq 0).2 ⟨0, _, rfl, rfl⟩, ?_⟩
  refine hdown hq _ (.ok .nothing) ?_ rfl 0
  intro action hm call
  obtain rfl | rfl : action = .resume 1 ∨ action = .closed 1 0 := by simpa using hm
  · exact nofun
  · exact nofun

end Registry
end Switchyard
