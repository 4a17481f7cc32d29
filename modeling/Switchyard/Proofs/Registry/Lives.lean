import Switchyard.Proofs.Registry.Vacancy

namespace Switchyard

open RegistryEvent

namespace Servers

variable {r s s' : Servers} {e a h : Nat} {slot : Slot}

def EndsExited (s : Servers) : Prop := ∀ h, .exited h ∈ s.events → .disposed h ∈ s.events

theorem exited_dispose {i : Nat} (hm : .exited h ∈ (s.dispose i).events) :
    .exited h ∈ s.events := by
  unfold dispose at hm
  split at hm
  · exact hm
  · split at hm
    · exact hm
    · exact (List.mem_cons.1 hm).resolve_left nofun

namespace EndsExited

theorem cons {event : RegistryEvent} (hx : s.EndsExited) (hs : s'.events = event :: s.events)
    (he : ∀ h, event ≠ .exited h) : s'.EndsExited := by
  intro h hm
  rw [hs] at hm ⊢
  exact List.mem_cons_of_mem _ (hx h ((List.mem_cons.1 hm).resolve_left fun heq => he h heq.symm))

theorem dispose (hx : s.EndsExited) (i : Nat) : (s.dispose i).EndsExited :=
  fun h hm => (events_dispose_suffix s i).subset (hx h (exited_dispose hm))

theorem change (hx : s.EndsExited) (hi : s.Sound) (hc : Change s s') : s'.EndsExited := by
  cases hc with
  | call => exact hx
  | spawn => exact hx.cons rfl nofun
  | fail => exact hx.cons rfl nofun
  | failLate => exact hx
  | install => exact hx
  | discard => exact hx.cons rfl nofun
  | @exit h i handle slot hh ha hs hg hst =>
    intro h' hm
    have hhandle := hi.started hs hst
    obtain heq | hm := List.mem_cons.1 (exited_dispose hm)
    · cases heq
      simp [Servers.dispose, hhandle]
    · exact (events_dispose_suffix _ i).subset (List.mem_cons_of_mem _ (hx h' hm))
  | close => exact hx.dispose _

theorem shutdown (hx : s.EndsExited) (t : Nat) : (s.shutDown t).EndsExited := by
  intro h hm
  have hm' : .exited h ∈ s.events := by
    simpa [shutDown] using hm
  exact List.mem_append_right _ (List.mem_cons_of_mem _ (hx h hm'))

theorem steps (hx : s.EndsExited) (hi : s.Sound) (hs : Steps s s') : s'.EndsExited := by
  induction hs with
  | refl => exact hx
  | tail hs h ih =>
    cases h with
    | change hc => exact ih.change (hi.steps hs) hc
    | shutdown => exact ih.shutdown _

theorem not_exited (hx : s.EndsExited) (hi : s.Sound) (hr : s.Recorded)
    (hs : s.slots[e]? = some slot) (hst : slot.state = .started h) : .exited h ∉ s.events := by
  intro hm
  cases (hr.disposed (hi.started hs hst)).2 (hx h hm)

end EndsExited

def Settled (s : Servers) : Prop :=
  ∀ (e : Nat) (slot : Slot) (a : Nat), s.slots[e]? = some slot → slot.state ≠ .starting a

/-- No start of an entry has begun since, and it has what it had unless its server has exited. -/
structure Unstarted (r s : Servers) (e : Nat) : Prop where
  spawns : s.spawns e = r.spawns e
  attempts {a : Nat} {attempt : StartAttempt} : s.attempts[a]? = some attempt →
    r.attempts.length ≤ a → attempt.entry ≠ e
  slot : s.slots[e]? = r.slots[e]? ∨
    ∃ slot h, r.slots[e]? = some slot ∧ slot.state = .started h ∧
      s.slots[e]? = some { slot with state := .notStarted } ∧ .exited h ∈ s.events

def CameTo (s : Servers) (a : Nat) (slot : Slot) : Option (Except ServerError Nat) → Prop
  | none => slot.state = .starting a ∧ slot.unusable = false
  | some (.error error) => slot.state = .notStarted ∧ slot.unusable = !error.isRetryable
  | some (.ok h) => slot.unusable = false ∧
    (slot.state = .started h ∨ slot.state = .notStarted ∧ .exited h ∈ s.events)

structure StartedBy (r s : Servers) (e a : Nat) : Prop where
  spawns : s.spawns e = r.spawns e + 1
  new : r.attempts.length ≤ a
  only {a' : Nat} {attempt : StartAttempt} : s.attempts[a']? = some attempt →
    r.attempts.length ≤ a' → attempt.entry = e → a' = a
  slot : ∃ slot outcome, s.slots[e]? = some slot ∧
    s.attempts[a]? = some ⟨e, slot.generation, outcome⟩ ∧ s.CameTo a slot outcome

theorem CameTo.mono {outcome : Option (Except ServerError Nat)} (h : s.CameTo a slot outcome)
    (hs : s.events ⊆ s'.events) : s'.CameTo a slot outcome := by
  cases outcome with
  | none => exact h
  | some outcome =>
    cases outcome with
    | error error => exact h
    | ok handle => exact ⟨h.1, h.2.imp id fun ⟨hst, hm⟩ => ⟨hst, hs hm⟩⟩

/-- An entry that is waiting for a start waits for the one that has begun since. -/
theorem CameTo.of_starting {outcome : Option (Except ServerError Nat)} {a' : Nat}
    (h : s.CameTo a slot outcome) (hst : slot.state = .starting a') : a' = a ∧ outcome = none := by
  match outcome, h with
  | none, h =>
    cases h.1.symm.trans hst
    exact ⟨rfl, rfl⟩
  | some (.error error), h => cases h.1.symm.trans hst
  | some (.ok handle), ⟨_, .inl h⟩ => cases h.symm.trans hst
  | some (.ok handle), ⟨_, .inr ⟨h, _⟩⟩ => cases h.symm.trans hst

theorem CameTo.of_started {outcome : Option (Except ServerError Nat)}
    (h : s.CameTo a slot outcome) (hst : slot.state = .started e) :
    outcome = some (.ok e) ∧ slot.unusable = false := by
  match outcome, h with
  | none, h => cases h.1.symm.trans hst
  | some (.error error), h => cases h.1.symm.trans hst
  | some (.ok handle), ⟨hu, .inl h⟩ =>
    cases h.symm.trans hst
    exact ⟨rfl, hu⟩
  | some (.ok handle), ⟨_, .inr ⟨h, _⟩⟩ => cases h.symm.trans hst

structure NoStart (e : Nat) (s s' : Servers) : Prop where
  spawns : s'.spawns e = s.spawns e
  attempts {a : Nat} {attempt : StartAttempt} : s'.attempts[a]? = some attempt →
    attempt.entry = e → ∃ old, s.attempts[a]? = some old ∧ old.entry = e
  events : s.events ⊆ s'.events

theorem Unstarted.refl (s : Servers) (e : Nat) : Unstarted s s e where
  spawns := rfl
  attempts ha hle := absurd (List.getElem?_eq_some_iff.1 ha).1 (Nat.not_lt.2 hle)
  slot := .inl rfl

theorem Unstarted.of_slot (hu : Unstarted r s e) (hn : NoStart e s s')
    (hs : s'.slots[e]? = s.slots[e]?) : Unstarted r s' e where
  spawns := hn.spawns.trans hu.spawns
  attempts ha hle he := by
    obtain ⟨old, hold, heq⟩ := hn.attempts ha he
    exact hu.attempts hold hle heq
  slot := by
    rw [hs]
    exact hu.slot.imp id fun ⟨slot, h, hr, hst, hleft, hm⟩ =>
      ⟨slot, h, hr, hst, hleft, hn.events hm⟩

theorem StartedBy.of_slot (hb : StartedBy r s e a) (hn : NoStart e s s')
    (hs : s'.slots[e]? = s.slots[e]?) (ha : s'.attempts[a]? = s.attempts[a]?) :
    StartedBy r s' e a where
  spawns := hn.spawns.trans hb.spawns
  new := hb.new
  only ha hle he := by
    obtain ⟨old, hold, heq⟩ := hn.attempts ha he
    exact hb.only hold hle heq
  slot := by
    rw [hs, ha]
    obtain ⟨slot, outcome, hslot, hattempt, hcame⟩ := hb.slot
    exact ⟨slot, outcome, hslot, hattempt, hcame.mono hn.events⟩

theorem StartedBy.ended {slot : Slot} {outcome : Option (Except ServerError Nat)}
    (hb : StartedBy r s e a) (hn : NoStart e s s') (hs : s'.slots[e]? = some slot)
    (ha : s'.attempts[a]? = some ⟨e, slot.generation, outcome⟩)
    (hcame : s'.CameTo a slot outcome) : StartedBy r s' e a where
  spawns := hn.spawns.trans hb.spawns
  new := hb.new
  only ha hle he := by
    obtain ⟨old, hold, heq⟩ := hn.attempts ha he
    exact hb.only hold hle heq
  slot := ⟨slot, outcome, hs, ha, hcame⟩

theorem Change.noStart (hc : Change s s') (hl : s'.attempts.length = s.attempts.length)
    (e : Nat) : NoStart e s s' where
  spawns := by
    cases hc with
    | spawn => simp at hl
    | exit => exact spawns_dispose _ _ _
    | close => exact spawns_dispose _ _ _
    | _ => rfl
  attempts {a attempt} ha he := by
    obtain ⟨hlt, -⟩ := List.getElem?_eq_some_iff.1 ha
    have hold := List.getElem?_eq_getElem (hl ▸ hlt)
    obtain ⟨new, hnew, heq, -⟩ := hc.before.attempts a _ hold
    cases ha.symm.trans hnew
    exact ⟨_, hold, heq.symm.trans he⟩
  events := hc.events_suffix.subset

theorem Unstarted.change (hu : Unstarted r s e) (hc : Change s s')
    (hl : s'.attempts.length = s.attempts.length) (hi : s.Sound)
    (hq : r.Settled) : Unstarted r s' e := by
  have hn := hc.noStart hl e
  have hne {e' a : Nat} {slot : Slot} (hs : s.slots[e']? = some slot)
      (hst : slot.state = .starting a) : e ≠ e' := by
    rintro rfl
    obtain h | ⟨old, h, -, -, hleft, -⟩ := hu.slot
    · exact hq e slot a (h.symm.trans hs) hst
    · cases hleft.symm.trans hs
      cases hst
  cases hc with
  | spawn => simp at hl
  | call => exact hu.of_slot hn rfl
  | failLate => exact hu.of_slot hn rfl
  | discard => exact hu.of_slot hn rfl
  | close => exact hu.of_slot hn (by rw [slots_dispose])
  | fail error ha hs hg =>
    exact hu.of_slot hn (List.getElem?_set_ne (hne hs (hi.starting_of_current ha hs hg)).symm)
  | install ha hs hg =>
    exact hu.of_slot hn (List.getElem?_set_ne (hne hs (hi.starting_of_current ha hs hg)).symm)
  | @exit h i handle slot hh ha hs hg hst =>
    by_cases he : e = handle.entry
    · subst he
      have hm := (events_dispose_suffix { s with
        slots := s.slots.set handle.entry { slot with state := .notStarted }
        events := .exited i :: s.events } i).subset List.mem_cons_self
      obtain hslot | ⟨old, h, -, -, hleft, -⟩ := hu.slot
      · refine ⟨hn.spawns.trans hu.spawns, fun ha hle he => ?_,
          .inr ⟨slot, i, hslot.symm.trans hs, hst, ?_, hm⟩⟩
        · obtain ⟨old, hold, heq⟩ := hn.attempts ha he
          exact hu.attempts hold hle heq
        · rw [slots_dispose]
          exact getElem?_set_of_some hs
      · cases hleft.symm.trans hs
        cases hst
    · refine hu.of_slot hn ?_
      rw [slots_dispose]
      exact List.getElem?_set_ne (Ne.symm he)

theorem StartedBy.change (hb : StartedBy r s e a) (hc : Change s s')
    (hl : s'.attempts.length = s.attempts.length) (hi : s.Sound) : StartedBy r s' e a := by
  have hn := hc.noStart hl e
  obtain ⟨old, outcome, hold, hattempt, hcame⟩ := hb.slot
  have hother {a' e' g : Nat} (ha : s.attempts[a']? = some ⟨e', g, none⟩)
      (hne : e' ≠ e ∨ old.generation ≠ g) (new : StartAttempt) :
      (s.attempts.set a' new)[a]? = s.attempts[a]? := by
    refine List.getElem?_set_ne ?_
    rintro rfl
    cases ha.symm.trans hattempt
    exact hne.elim (fun h => h rfl) fun h => h rfl
  have hstale {e' g : Nat} {slot : Slot} (hs : s.slots[e']? = some slot)
      (hg : slot.generation ≠ g) : e' ≠ e ∨ old.generation ≠ g := by
    by_cases he : e' = e
    · subst he
      cases hold.symm.trans hs
      exact .inr hg
    · exact .inl he
  cases hc with
  | spawn => simp at hl
  | call => exact hb.of_slot hn rfl rfl
  | close => exact hb.of_slot hn (by rw [slots_dispose]) (by rw [attempts_dispose])
  | @fail a' e' g slot error ha hs hg =>
    by_cases he : e' = e
    · subst he hg
      cases hold.symm.trans hs
      obtain ⟨rfl, rfl⟩ := hcame.of_starting (hi.starting_of_current ha hs rfl)
      exact hb.ended hn (getElem?_set_of_some hs) (getElem?_set_of_some ha) ⟨rfl, rfl⟩
    · exact hb.of_slot hn (List.getElem?_set_ne he) (hother ha (.inl he) _)
  | @install a' e' g slot ha hs hg =>
    by_cases he : e' = e
    · subst he hg
      cases hold.symm.trans hs
      obtain ⟨rfl, rfl⟩ := hcame.of_starting (hi.starting_of_current ha hs rfl)
      exact hb.ended hn (getElem?_set_of_some hs) (getElem?_set_of_some ha) ⟨hcame.2, .inl rfl⟩
    · exact hb.of_slot hn (List.getElem?_set_ne he) (hother ha (.inl he) _)
  | failLate error ha hs hg => exact hb.of_slot hn rfl (hother ha (hstale hs hg) _)
  | discard id ha hs hg => exact hb.of_slot hn rfl (hother ha (hstale hs hg) _)
  | @exit h i handle slot hh ha hs hg hst =>
    have hm := (events_dispose_suffix { s with
      slots := s.slots.set handle.entry { slot with state := .notStarted }
      events := .exited i :: s.events } i).subset List.mem_cons_self
    by_cases he : handle.entry = e
    · subst he
      cases hold.symm.trans hs
      obtain ⟨rfl, hu⟩ := hcame.of_started hst
      refine @ended r s _ handle.entry a { old with state := .notStarted } (some (.ok i)) hb hn
        ?_ ?_ ⟨hu, .inr ⟨rfl, hm⟩⟩
      · rw [slots_dispose]
        exact getElem?_set_of_some hs
      · rw [attempts_dispose]
        exact hattempt
    · refine hb.of_slot hn ?_ (by rw [attempts_dispose])
      rw [slots_dispose]
      exact List.getElem?_set_ne he

/-- A sequence of changes in which no attempt is made is one of changes in which none is. -/
theorem Changes.without_starts {p : Servers → Prop} (hc : Changes s s')
    (hl : s'.attempts.length = s.attempts.length) (hi : s.Sound) (hp : p s)
    (hstep : ∀ x y, Change x y → y.attempts.length = x.attempts.length → x.Sound → p x → p y) :
    p s' := by
  induction hc with
  | refl => exact hp
  | @tail x y hs h ih =>
    have hx := (Changes.steps hs).before.attempts.length_le
    have hy := h.before.attempts.length_le
    have hxs : x.attempts.length = s.attempts.length := by omega
    exact hstep x y h (hl.trans hxs.symm) (hi.steps (Changes.steps hs)) (ih hxs)

theorem Unstarted.changes (hu : Unstarted r s e) (hc : Changes s s')
    (hl : s'.attempts.length = s.attempts.length) (hi : s.Sound)
    (hq : r.Settled) : Unstarted r s' e :=
  Changes.without_starts (p := fun s => Unstarted r s e) hc hl hi hu
    fun _ _ h hxy hx hu => hu.change h hxy hx hq

theorem StartedBy.changes (hb : StartedBy r s e a) (hc : Changes s s')
    (hl : s'.attempts.length = s.attempts.length) (hi : s.Sound) : StartedBy r s' e a :=
  Changes.without_starts (p := fun s => StartedBy r s e a) hc hl hi hb
    fun _ _ h hxy hx hb => hb.change h hxy hx

def Ended (r s : Servers) (e : Nat) : Prop :=
  ∃ a attempt outcome, StartedBy r s e a ∧ s.attempts[a]? = some attempt ∧
    attempt.outcome = some outcome

theorem Ended.changes (hx : Ended r s e) (hc : Changes s s')
    (hl : s'.attempts.length = s.attempts.length) (hi : s.Sound) : Ended r s' e := by
  obtain ⟨a, attempt, outcome, hb, ha, ho⟩ := hx
  obtain ⟨attempt', ha', -, -, hkept⟩ := (Changes.steps hc).before.attempts a attempt ha
  exact ⟨a, attempt', outcome, hb.changes hc hl hi, ha', hkept outcome ho⟩

def begun (s : Servers) (e : Nat) (slot : Slot) : Servers :=
  { s with
    slots := s.slots.set e
      { slot with state := .starting s.attempts.length, generation := slot.generation + 1 }
    attempts := s.attempts ++ [⟨e, slot.generation + 1, none⟩]
    events := .spawning e :: s.events }

theorem noStart_begun {e' : Nat} (s : Servers) (slot : Slot) (hne : e ≠ e') :
    NoStart e s (s.begun e' slot) where
  spawns := by simp [begun, Servers.spawns, isSpawnOf, Ne.symm hne]
  attempts ha he := by
    obtain ⟨-, rfl⟩ | ha := getElem?_concat_cases ha
    · exact absurd he.symm hne
    · exact ⟨_, ha, he⟩
  events := List.subset_cons_self _ _

theorem Unstarted.begun_other {e' : Nat} (hu : Unstarted r s e) (slot : Slot) (hne : e ≠ e') :
    Unstarted r (s.begun e' slot) e :=
  hu.of_slot (noStart_begun s slot hne) (List.getElem?_set_ne hne.symm)

theorem StartedBy.begun_other {e' : Nat} (hb : StartedBy r s e a) (slot : Slot) (hne : e ≠ e') :
    StartedBy r (s.begun e' slot) e a := by
  refine hb.of_slot (noStart_begun s slot hne) (List.getElem?_set_ne hne.symm) ?_
  obtain ⟨_, _, _, ha, _⟩ := hb.slot
  exact (getElem?_append_of_some ha).trans ha.symm

theorem Ended.begun_other {e' : Nat} (hx : Ended r s e) (slot : Slot) (hne : e ≠ e') :
    Ended r (s.begun e' slot) e := by
  obtain ⟨a, attempt, outcome, hb, ha, ho⟩ := hx
  exact ⟨a, attempt, outcome, hb.begun_other slot hne, getElem?_append_of_some ha, ho⟩

theorem Unstarted.begin (hu : Unstarted r s e) (hle : r.attempts.length ≤ s.attempts.length)
    (hs : s.slots[e]? = some slot) (husable : slot.unusable = false) :
    StartedBy r (s.begun e slot) e s.attempts.length where
  spawns := by
    have h := hu.spawns
    simp only [Servers.spawns] at h
    simp [begun, Servers.spawns, isSpawnOf, h]
  new := hle
  only ha hle' he := by
    obtain ⟨rfl, -⟩ | ha := getElem?_concat_cases ha
    · rfl
    · exact absurd he (hu.attempts ha hle')
  slot := ⟨_, none, getElem?_set_of_some hs, List.getElem?_concat_length, rfl, husable⟩

end Servers

namespace Registry

variable {r : Registry}

theorem Reachable.endsExited (hr : r.Reachable) : r.servers.EndsExited := by
  refine hr.induction (p := fun r => r.servers.EndsExited) ?_ ?_
  · intro root configs watch commandExists handshakeMs h hm
    cases hm
  · intro r action hr hx
    exact hx.steps hr.sound (servers_steps r action)

theorem Reachable.settled (hr : r.Reachable) (hq : ∀ e a, ¬ r.UnderWay e a) :
    r.servers.Settled := by
  intro e slot a hs hst
  have ha := hr.sound.starting hs hst
  simp only [servers, List.getElem?_map] at hs
  obtain ⟨entry, he, rfl⟩ := Option.map_eq_some_iff.1 hs
  exact hq e a ⟨entry, he, ha⟩

end Registry
end Switchyard
