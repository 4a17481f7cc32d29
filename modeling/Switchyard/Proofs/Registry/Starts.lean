import Mathlib.Data.List.Nodup
import Switchyard.Proofs.Registry.Errands

namespace Switchyard

namespace RegistryEvent

def isSpawnOf (p : Nat → Bool) : RegistryEvent → Bool
  | .spawning e => p e
  | _ => false

def isFailureOf (p : Nat → Bool) : RegistryEvent → Bool
  | .startFailed e _ => p e
  | _ => false

def isExitOf (p : Nat → Bool) : RegistryEvent → Bool
  | .exited h => p h
  | _ => false

def isShutdownAll : RegistryEvent → Bool
  | .shutdownAll => true
  | _ => false

end RegistryEvent

open RegistryEvent

namespace Servers

variable {s s' : Servers} {e h : Nat}

def isHandleOf (s : Servers) (e h : Nat) : Bool := (s.handles[h]?).any (·.entry == e)

def spawns (s : Servers) (e : Nat) : Nat := s.events.countP (isSpawnOf (· == e))

def failures (s : Servers) (e : Nat) : Nat := s.events.countP (isFailureOf (· == e))

def exits (s : Servers) (e : Nat) : Nat := s.events.countP (isExitOf (s.isHandleOf e))

def shutdowns (s : Servers) : Nat := s.events.countP isShutdownAll

/-- One more start is open to an entry that has no server and none on its way. -/
def Paid (s : Servers) : Prop :=
  ∀ (e : Nat) (slot : Slot), s.slots[e]? = some slot →
    s.spawns e + (if slot.state = .notStarted then 1 else 0) ≤
      1 + s.failures e + s.exits e + s.shutdowns

theorem isHandleOf_before (hb : Before s s') (hh : s.isHandleOf e h = true) :
    s'.isHandleOf e h = true := by
  unfold isHandleOf at hh ⊢
  obtain ⟨handle, hs, he⟩ := (Option.any_eq_true _ _).1 hh
  obtain ⟨handle', hs', he', _⟩ := hb.handles h handle hs
  refine (Option.any_eq_true _ _).2 ⟨handle', hs', ?_⟩
  rwa [he']

theorem countP_exits_le (hb : Before s s') (e : Nat) :
    s'.events.countP (isExitOf (s.isHandleOf e)) ≤ s'.exits e := by
  apply List.countP_mono_left
  intro event _ h
  cases event with
  | exited h' => exact isHandleOf_before hb h
  | _ => cases h

theorem counts_same (hb : Before s s') (he : s'.events = s.events) (e : Nat) :
    s'.spawns e = s.spawns e ∧ s'.failures e = s.failures e ∧ s.exits e ≤ s'.exits e ∧
      s'.shutdowns = s.shutdowns := by
  have hx := countP_exits_le hb e
  rw [he] at hx
  unfold spawns failures shutdowns
  rw [he]
  exact ⟨rfl, rfl, hx, rfl⟩

theorem counts_cons {event : RegistryEvent} (hb : Before s s')
    (he : s'.events = event :: s.events) (e : Nat) :
    s'.spawns e = s.spawns e + (if isSpawnOf (· == e) event then 1 else 0) ∧
      s'.failures e = s.failures e + (if isFailureOf (· == e) event then 1 else 0) ∧
      s.exits e + (if isExitOf (s.isHandleOf e) event then 1 else 0) ≤ s'.exits e ∧
      s'.shutdowns = s.shutdowns + if isShutdownAll event then 1 else 0 := by
  have hx := countP_exits_le hb e
  rw [he, List.countP_cons] at hx
  unfold spawns failures shutdowns
  rw [he]
  exact ⟨List.countP_cons, List.countP_cons, hx, List.countP_cons⟩

theorem events_dispose_or (s : Servers) (h : Nat) : (s.dispose h).events = s.events ∨
    (s.dispose h).events = .disposed h :: s.events := by
  unfold dispose
  split
  · exact .inl rfl
  · split
    · exact .inl rfl
    · exact .inr rfl

namespace Paid

theorem dispose (hp : s.Paid) (h : Nat) : (s.dispose h).Paid := by
  intro e slot hs
  rw [slots_dispose] at hs
  have h0 := hp e slot hs
  have hb := Before.dispose s h
  obtain he | he := events_dispose_or s h
  · obtain ⟨h1, h2, h3, h4⟩ := counts_same hb he e
    omega
  · obtain ⟨h1, h2, h3, h4⟩ := counts_cons hb he e
    simp only [isSpawnOf, isFailureOf, isExitOf, isShutdownAll, Bool.false_eq_true,
      if_false] at h1 h2 h3 h4
    omega

theorem set {slot new : Slot} {event : RegistryEvent} (hp : s.Paid) (hb : Before s s')
    (hs : s.slots[e]? = some slot) (hn : s'.slots = s.slots.set e new)
    (he : s'.events = event :: s.events)
    (hpay : (if isSpawnOf (· == e) event then 1 else 0) +
        (if new.state = .notStarted then 1 else 0) ≤
      (if slot.state = .notStarted then 1 else 0) +
        (if isFailureOf (· == e) event then 1 else 0) +
        if isExitOf (s.isHandleOf e) event then 1 else 0)
    (hother : ∀ e', e' ≠ e → isSpawnOf (· == e') event = false) : s'.Paid := by
  intro e' slot' hs'
  obtain ⟨h1, h2, h3, h4⟩ := counts_cons hb he e'
  rw [hn] at hs'
  obtain ⟨rfl, rfl⟩ | ⟨hne, hs'⟩ := getElem?_set_cases hs'
  · have h0 := hp e' slot hs
    omega
  · have h0 := hp e' slot' hs'
    rw [hother e' hne] at h1
    simp only [Bool.false_eq_true, if_false] at h1
    omega

theorem change (hp : s.Paid) (hi : s.Sound) (hc : Change s s') : s'.Paid := by
  have hb := hc.before
  cases hc with
  | call => exact hp
  | @spawn e slot hs hu hn =>
    apply hp.set hb hs rfl rfl
    · simp [isSpawnOf, isFailureOf, isExitOf, hn]
    · intro e' hne
      exact beq_false_of_ne hne.symm
  | @fail a e g slot error ha hs hg =>
    refine hp.set hb hs rfl rfl ?_ fun _ _ => rfl
    simp [isSpawnOf, isFailureOf, isExitOf]
  | failLate error ha hs hg => exact hp
  | @install a e g slot ha hs hg =>
    intro e' slot' hs'
    obtain ⟨h1, h2, h3, h4⟩ := counts_same hb rfl e'
    obtain ⟨rfl, rfl⟩ | ⟨hne, hs'⟩ := getElem?_set_cases hs'
    · have h0 := hp e' slot hs
      rw [if_neg SlotState.noConfusion]
      omega
    · have h0 := hp e' slot' hs'
      omega
  | discard id ha hs hg =>
    -- A server that is discarded was never in its slot, so its end is no exit that could pay.
    intro e' slot' hs'
    obtain ⟨h1, h2, h3, h4⟩ := counts_cons hb rfl e'
    have h0 := hp e' slot' hs'
    simp only [isSpawnOf, isFailureOf, isExitOf, isShutdownAll, Bool.false_eq_true,
      if_false] at h1 h2 h3 h4
    omega
  | @exit h i handle slot hh ha hs hg hst =>
    have hi' := hi.started hs hst
    have hb' : Before s { s with
        slots := s.slots.set handle.entry { slot with state := .notStarted }
        events := .exited i :: s.events } :=
      ⟨rfl, rfl, .set .refl hs (Nat.le_refl _), .refl .refl _, .refl .refl _⟩
    refine dispose (hp.set hb' hs rfl rfl ?_ fun _ _ => rfl) i
    simp [isSpawnOf, isExitOf, isHandleOf, hi']
  | close ht hm => exact hp.dispose _

theorem countP_shutDown {q : RegistryEvent → Bool} (hq : ∀ h, q (.shuttingDown h) = false)
    (t : Nat) : (s.shutDown t).events.countP q = (.shutdownAll :: s.events).countP q := by
  have hz : ((s.installed.map .shuttingDown).reverse).countP q = 0 := by
    rw [List.countP_eq_zero]
    intro event hm
    obtain ⟨h, _, rfl⟩ := List.mem_map.1 (List.mem_reverse.1 hm)
    simp [hq h]
  unfold shutDown
  rw [List.countP_append, hz, Nat.zero_add]

theorem shutdown (hp : s.Paid) (t : Nat) : (s.shutDown t).Paid := by
  intro e slot hs
  obtain ⟨old, hold, rfl⟩ := Sound.getElem?_vacated hs
  have h0 := hp e old hold
  have h1 : (s.shutDown t).spawns e = s.spawns e := countP_shutDown (fun _ => rfl) t
  have h2 : (s.shutDown t).failures e = s.failures e := countP_shutDown (fun _ => rfl) t
  have h3 : (s.shutDown t).exits e = s.exits e := countP_shutDown (fun _ => rfl) t
  have h4 : (s.shutDown t).shutdowns = s.shutdowns + 1 :=
    (countP_shutDown (fun _ => rfl) t).trans (List.countP_cons_of_pos rfl)
  have h5 : old.vacated.state = .notStarted := rfl
  rw [if_pos h5]
  omega

theorem step (hp : s.Paid) (hi : s.Sound) (h : Step s s') : s'.Paid := by
  cases h with
  | change h => exact hp.change hi h
  | shutdown => exact hp.shutdown _

theorem steps (hp : s.Paid) (hi : s.Sound) (h : Steps s s') : s'.Paid := by
  induction h with
  | refl => exact hp
  | tail h h' ih => exact ih.step (hi.steps h) h'

end Paid

def Numbered (s : Servers) : Prop :=
  ∀ (e : Nat) (slot : Slot), s.slots[e]? = some slot →
    slot.generation = s.spawns e + s.shutdowns

namespace Numbered

theorem same (hn : s.Numbered)
    (hs : ∀ (e : Nat) (slot' : Slot), s'.slots[e]? = some slot' →
      ∃ slot, s.slots[e]? = some slot ∧ slot'.generation = slot.generation)
    (he : ∀ e, s'.spawns e = s.spawns e) (hd : s'.shutdowns = s.shutdowns) : s'.Numbered := by
  intro e slot' hslot'
  obtain ⟨slot, hslot, hg⟩ := hs e slot' hslot'
  rw [hg, he, hd]
  exact hn e slot hslot

theorem set {slot new : Slot} {event : RegistryEvent} (hn : s.Numbered)
    (hs : s.slots[e]? = some slot) (hset : s'.slots = s.slots.set e new)
    (hg : new.generation = slot.generation) (he : s'.events = event :: s.events)
    (hspawn : ∀ e, isSpawnOf (· == e) event = false) (hd : isShutdownAll event = false) :
    s'.Numbered := by
  apply hn.same
  · intro e' slot' hs'
    rw [hset] at hs'
    obtain ⟨rfl, rfl⟩ | ⟨_, hs'⟩ := getElem?_set_cases hs'
    · exact ⟨slot, hs, hg⟩
    · exact ⟨slot', hs', rfl⟩
  · intro e'
    unfold spawns
    rw [he, List.countP_cons_of_neg (by rw [hspawn]; exact Bool.false_ne_true)]
  · unfold shutdowns
    rw [he, List.countP_cons_of_neg (by rw [hd]; exact Bool.false_ne_true)]

theorem quiet {event : RegistryEvent} (hn : s.Numbered) (hs : s'.slots = s.slots)
    (he : s'.events = s.events ∨ s'.events = event :: s.events)
    (hspawn : ∀ e, isSpawnOf (· == e) event = false) (hd : isShutdownAll event = false) :
    s'.Numbered := by
  apply hn.same
  · intro e slot' hs'
    exact ⟨slot', hs ▸ hs', rfl⟩
  · intro e
    unfold spawns
    obtain he | he := he
    · rw [he]
    · rw [he, List.countP_cons_of_neg (by rw [hspawn]; exact Bool.false_ne_true)]
  · unfold shutdowns
    obtain he | he := he
    · rw [he]
    · rw [he, List.countP_cons_of_neg (by rw [hd]; exact Bool.false_ne_true)]

theorem dispose (hn : s.Numbered) (h : Nat) : (s.dispose h).Numbered :=
  hn.quiet slots_dispose (events_dispose_or s h) (fun _ => rfl) rfl

theorem change (hn : s.Numbered) (hc : Change s s') : s'.Numbered := by
  cases hc with
  | call | failLate error ha hs hg => exact hn
  | @spawn e slot hs hu hst =>
    intro e' slot' hs'
    obtain ⟨rfl, rfl⟩ | ⟨hne, hs'⟩ := getElem?_set_cases hs'
    · have h0 := hn e' slot hs
      have h1 : (RegistryEvent.spawning e' :: s.events).countP (isSpawnOf (· == e')) =
          s.spawns e' + 1 := List.countP_cons_of_pos (beq_self_eq_true e')
      change slot.generation + 1 =
        (RegistryEvent.spawning e' :: s.events).countP (isSpawnOf (· == e')) + s.shutdowns
      omega
    · have h0 := hn e' slot' hs'
      have h1 : (RegistryEvent.spawning e :: s.events).countP (isSpawnOf (· == e')) =
          s.spawns e' := List.countP_cons_of_neg fun h => hne (beq_iff_eq.1 h).symm
      rw [h0]
      exact congrArg (· + s.shutdowns) h1.symm
  | fail error ha hs hg => exact hn.set hs rfl rfl rfl (fun _ => rfl) rfl
  | @install a e g slot ha hs hg =>
    refine hn.same ?_ (fun _ => rfl) rfl
    intro e' slot' hs'
    obtain ⟨rfl, rfl⟩ | ⟨_, hs'⟩ := getElem?_set_cases hs'
    · exact ⟨slot, hs, rfl⟩
    · exact ⟨slot', hs', rfl⟩
  | discard id ha hs hg => exact hn.quiet rfl (.inr rfl) (fun _ => rfl) rfl
  | @exit h i handle slot hh ha hs hg hst =>
    have hvacated : Numbered { s with
        slots := s.slots.set handle.entry { slot with state := .notStarted }
        events := .exited i :: s.events } := hn.set hs rfl rfl rfl (fun _ => rfl) rfl
    exact hvacated.dispose i
  | close ht hm => exact hn.dispose _

theorem shutdown (hn : s.Numbered) (t : Nat) : (s.shutDown t).Numbered := by
  intro e slot hs
  obtain ⟨old, hold, rfl⟩ := Sound.getElem?_vacated hs
  have h0 := hn e old hold
  have h1 : (s.shutDown t).spawns e = s.spawns e := Paid.countP_shutDown (fun _ => rfl) t
  have h2 : (s.shutDown t).shutdowns = s.shutdowns + 1 :=
    (Paid.countP_shutDown (fun _ => rfl) t).trans (List.countP_cons_of_pos rfl)
  change old.generation + 1 = _
  omega

theorem steps (hn : s.Numbered) (h : Steps s s') : s'.Numbered := by
  induction h with
  | refl => exact hn
  | tail _ h' ih =>
    cases h' with
    | change h' => exact ih.change h'
    | shutdown => exact ih.shutdown _

end Numbered

end Servers

namespace Registry

variable {r : Registry} {e h t : Nat}

def spawns (r : Registry) (id : String) : Nat := r.history.countP (isSpawnOf (r.isEntry id))

/-- How often a start of a server has failed that no shutdown had overtaken. -/
def failures (r : Registry) (id : String) : Nat := r.history.countP (isFailureOf (r.isEntry id))

/-- How often a server has exited while it was the one of its entry. -/
def exits (r : Registry) (id : String) : Nat :=
  r.history.countP (isExitOf fun h => (r.handles[h]?).any fun handle => r.isEntry id handle.entry)

def shutdowns (r : Registry) : Nat := r.history.countP isShutdownAll

theorem distinct_ids (configs : List ServerConfig) : ((distinct configs).map (·.id)).Nodup := by
  have h (kept : List ServerConfig) (hk : (kept.map (·.id)).Nodup) :
      ((configs.foldl (fun kept c => if kept.any (·.id == c.id) then kept else kept ++ [c])
        kept).map (·.id)).Nodup := by
    induction configs generalizing kept with
    | nil => exact hk
    | cons c configs ih =>
      rw [List.foldl_cons]
      apply ih _
      split
      · exact hk
      · rename_i hn
        rw [List.map_append]
        refine List.nodup_append.2 ⟨hk, List.nodup_singleton _, ?_⟩
        rintro id hm id' hm' rfl
        obtain ⟨c', hc', he⟩ := List.mem_map.1 hm
        refine hn (List.any_eq_true.2 ⟨c', hc', ?_⟩)
        rw [he, List.mem_singleton.1 hm']
        exact beq_self_eq_true _
  exact h [] List.nodup_nil

theorem ids_nodup (h : r.Reachable) : (r.servers.configs.map (·.id)).Nodup := by
  apply h.induction (p := fun r => (r.servers.configs.map (·.id)).Nodup)
  · intro root configs watch commandExists handshakeMs
    have hc : (ofConfigs root configs watch commandExists handshakeMs).servers.configs =
        distinct configs := by
      simp [servers, ofConfigs, Function.comp_def, Entry.ofConfig]
    rw [hc]
    exact distinct_ids configs
  · intro r action _ hn
    rwa [(servers_steps r action).before.configs]

theorem isEntry_eq {entry : Entry} (hr : r.Reachable) (he : r.entries[e]? = some entry) :
    r.isEntry entry.config.id = (· == e) := by
  funext e'
  unfold isEntry
  by_cases h : e' = e
  · subst h
    rw [he, beq_self_eq_true, Option.any_some, beq_self_eq_true]
  · rw [beq_false_of_ne h]
    cases he' : r.entries[e']? with
    | none => rfl
    | some entry' =>
      apply beq_false_of_ne
      intro hid
      apply h
      have hc : (r.servers.configs.map (·.id))[e]? = some entry.config.id := by
        simp [servers, he]
      have hc' : (r.servers.configs.map (·.id))[e']? = some entry.config.id := by
        simp [servers, he', hid]
      have hl := (List.getElem?_eq_some_iff.1 hc').1
      exact (List.getElem?_inj hl (ids_nodup hr)).1 (hc'.trans hc.symm)

theorem countP_events {q : RegistryEvent → Bool}
    (hq : ∀ t h notice, q (.accepted t h notice) = false) :
    r.servers.events.countP q = r.history.countP q := by
  unfold servers
  rw [List.countP_filter]
  apply List.countP_congr
  intro event _
  rw [Bool.and_eq_true, Bool.not_eq_true']
  refine ⟨fun h => h.1, fun h => ⟨h, ?_⟩⟩
  cases event with
  | accepted t h' notice =>
    rw [hq] at h
    cases h
  | _ => rfl

theorem paid_ofConfigs (root : Path) (configs : List ServerConfig) (watch : Option WatchFilter)
    (commandExists : String → Bool) (handshakeMs : Nat) :
    (ofConfigs root configs watch commandExists handshakeMs).servers.Paid := by
  intro e slot hs
  split
  · exact Nat.le_refl 1
  · exact Nat.zero_le _

theorem Reachable.paid (hr : r.Reachable) : r.servers.Paid := by
  apply hr.induction (p := fun r => r.servers.Paid) paid_ofConfigs
  intro r action hr hp
  exact hp.steps hr.sound (servers_steps r action)

theorem servers_spawns {entry : Entry} (hr : r.Reachable) (he : r.entries[e]? = some entry) :
    r.servers.spawns e = r.spawns entry.config.id := by
  unfold spawns Servers.spawns
  rw [isEntry_eq hr he]
  exact countP_events fun _ _ _ => rfl

theorem servers_shutdowns (r : Registry) : r.servers.shutdowns = r.shutdowns :=
  countP_events fun _ _ _ => rfl

/-- The generation of a slot counts the starts of its server and all shutdowns, so that 64 bits hold
it for as long as there are fewer than 2^64 of these. -/
theorem generation_eq {entry : Entry} (hr : r.Reachable) (he : r.entries[e]? = some entry) :
    entry.slot.generation = r.spawns entry.config.id + r.shutdowns := by
  have hn : r.servers.Numbered := by
    apply hr.induction (p := fun r => r.servers.Numbered)
    · intro root configs watch commandExists handshakeMs e slot hs
      obtain ⟨entry, he, rfl⟩ := List.mem_map.1 (List.mem_of_getElem? hs)
      obtain ⟨config, _, rfl⟩ := List.mem_map.1 he
      rfl
    · intro r action _ hn
      exact hn.steps (servers_steps r action)
  rw [← servers_spawns hr he, ← servers_shutdowns]
  exact hn e entry.slot (slot_of_entry he)

theorem spawns_le (hr : r.Reachable) (id : String) :
    r.spawns id ≤ 1 + r.failures id + r.exits id + r.shutdowns := by
  by_cases hid : ∃ (e : Nat) (entry : Entry), r.entries[e]? = some entry ∧ entry.config.id = id
  · obtain ⟨e, entry, he, rfl⟩ := hid
    have h0 := hr.paid e entry.slot (slot_of_entry he)
    have h1 := servers_spawns hr he
    have h2 : r.servers.failures e = r.failures entry.config.id := by
      unfold failures Servers.failures
      rw [isEntry_eq hr he]
      exact countP_events fun _ _ _ => rfl
    have h3 : r.servers.exits e = r.exits entry.config.id := by
      unfold exits Servers.exits
      rw [isEntry_eq hr he]
      exact countP_events fun _ _ _ => rfl
    have h4 := servers_shutdowns r
    omega
  · have h1 : r.spawns id = 0 := by
      unfold spawns
      rw [List.countP_eq_zero]
      intro event _ h
      cases event with
      | spawning e =>
        obtain ⟨entry, he, heq⟩ := (Option.any_eq_true _ _).1 h
        exact hid ⟨e, entry, he, beq_iff_eq.1 heq⟩
      | _ => cases h
    omega

end Registry
end Switchyard
