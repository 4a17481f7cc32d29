import Mathlib.Data.List.Induction
import Switchyard.Proofs.Registry.Servers

namespace Switchyard

def Slot.Before (x y : Slot) : Prop := x.generation ≤ y.generation

def StartAttempt.Before (x y : StartAttempt) : Prop :=
  y.entry = x.entry ∧ y.generation = x.generation ∧
    ∀ outcome, x.outcome = some outcome → y.outcome = some outcome

def Handle.Before (x y : Handle) : Prop :=
  y.entry = x.entry ∧ y.generation = x.generation ∧ y.attended = x.attended

theorem Slot.Before.refl (x : Slot) : Slot.Before x x := Nat.le_refl _

theorem Slot.before_vacated (x : Slot) : x.Before x.vacated := Nat.le_succ _

theorem StartAttempt.Before.refl (x : StartAttempt) : StartAttempt.Before x x :=
  ⟨rfl, rfl, fun _ h => h⟩

theorem Handle.Before.refl (x : Handle) : Handle.Before x x := ⟨rfl, rfl, rfl⟩

namespace Servers

variable {s : Servers} {a e g h i t : Nat} {slot : Slot} {handle : Handle}

@[simp] theorem slots_dispose : (s.dispose h).slots = s.slots := by
  unfold dispose
  split
  · rfl
  · split <;> rfl

@[simp] theorem attempts_dispose : (s.dispose h).attempts = s.attempts := by
  unfold dispose
  split
  · rfl
  · split <;> rfl

theorem handles_dispose :
    (s.dispose h).handles = s.handles.modify h ({ · with disposed := true }) := by
  unfold dispose
  split
  · rename_i hh
    exact (List.modify_eq_self (List.getElem?_eq_none_iff.1 hh)).symm
  · rename_i handle hh
    rw [List.modify_eq_set, hh, Option.getD_some]
    split
    · rename_i hd
      obtain ⟨hl, hx⟩ := List.getElem?_eq_some_iff.1 hh
      have hs : { handle with disposed := true } = s.handles[h] := by rw [hx, ← hd]
      rw [hs, List.set_getElem_self hl]
    · rfl

structure Before (s s' : Servers) : Prop where
  root : s'.root = s.root
  configs : s'.configs = s.configs
  slots : Kept Slot.Before s.slots s'.slots
  attempts : Kept StartAttempt.Before s.attempts s'.attempts
  handles : Kept Handle.Before s.handles s'.handles

theorem Before.refl (s : Servers) : Before s s :=
  ⟨rfl, rfl, .refl .refl _, .refl .refl _, .refl .refl _⟩

theorem Before.trans {s s' s'' : Servers} (h : Before s s') (h' : Before s' s'') :
    Before s s'' where
  root := h'.root.trans h.root
  configs := h'.configs.trans h.configs
  slots := by
    refine h.slots.trans ?_ h'.slots
    intro x y z hxy hyz
    exact Nat.le_trans hxy hyz
  attempts := by
    refine h.attempts.trans ?_ h'.attempts
    rintro x y z ⟨he, hg, ho⟩ ⟨he', hg', ho'⟩
    exact ⟨he'.trans he, hg'.trans hg, fun o h => ho' o (ho o h)⟩
  handles := by
    refine h.handles.trans ?_ h'.handles
    rintro x y z ⟨he, hg, ha⟩ ⟨he', hg', ha'⟩
    exact ⟨he'.trans he, hg'.trans hg, ha'.trans ha⟩

theorem root_dispose : (s.dispose h).root = s.root := by
  unfold dispose
  split
  · rfl
  · split <;> rfl

theorem configs_dispose : (s.dispose h).configs = s.configs := by
  unfold dispose
  split
  · rfl
  · split <;> rfl

theorem Before.dispose (s : Servers) (h : Nat) : Before s (s.dispose h) where
  root := root_dispose
  configs := configs_dispose
  slots := by
    rw [slots_dispose]
    exact .refl .refl _
  attempts := by
    rw [attempts_dispose]
    exact .refl .refl _
  handles := by
    rw [handles_dispose]
    exact .modify .refl (fun _ => ⟨rfl, rfl, rfl⟩) _ _

theorem Change.before {s s' : Servers} (h : Change s s') : Before s s' := by
  cases h with
  | call => exact ⟨rfl, rfl, .refl .refl _, .refl .refl _, .refl .refl _⟩
  | spawn hs => exact ⟨rfl, rfl, .set .refl hs (Nat.le_succ _), .append .refl _ _, .refl .refl _⟩
  | fail error ha hs =>
    exact ⟨rfl, rfl, .set .refl hs (Nat.le_refl _), .set .refl ha ⟨rfl, rfl, nofun⟩, .refl .refl _⟩
  | failLate error ha hs =>
    exact ⟨rfl, rfl, .refl .refl _, .set .refl ha ⟨rfl, rfl, nofun⟩, .refl .refl _⟩
  | install ha hs =>
    exact ⟨rfl, rfl, .set .refl hs (Nat.le_refl _), .set .refl ha ⟨rfl, rfl, nofun⟩,
      .append .refl _ _⟩
  | discard id ha hs =>
    exact ⟨rfl, rfl, .refl .refl _, .set .refl ha ⟨rfl, rfl, nofun⟩, .append .refl _ _⟩
  | exit hh ha hs =>
    refine Before.trans ?_ (.dispose _ _)
    exact ⟨rfl, rfl, .set .refl hs (Nat.le_refl _), .refl .refl _, .refl .refl _⟩
  | @close t h hs ht hm =>
    have hd := Before.dispose s h
    exact ⟨hd.root, hd.configs, hd.slots, hd.attempts, hd.handles⟩

theorem Step.before {s s' : Servers} (h : Step s s') : Before s s' := by
  cases h with
  | change h => exact h.before
  | shutdown =>
    exact ⟨rfl, rfl, .map Slot.before_vacated _, .refl .refl _, .refl .refl _⟩

theorem Steps.before {s s' : Servers} (h : Steps s s') : Before s s' := by
  induction h with
  | refl => exact .refl _
  | tail _ h ih => exact ih.trans h.before

/-- How slots, attempts, handles and shutdowns fit together. -/
structure Sound (s : Servers) : Prop where
  unusable {e : Nat} {slot : Slot} : s.slots[e]? = some slot → slot.unusable = true →
    slot.state = .notStarted
  starting {e a : Nat} {slot : Slot} : s.slots[e]? = some slot → slot.state = .starting a →
    s.attempts[a]? = some ⟨e, slot.generation, none⟩
  started {e h : Nat} {slot : Slot} : s.slots[e]? = some slot → slot.state = .started h →
    s.handles[h]? = some ⟨e, slot.generation, true, false⟩
  attempt {a : Nat} {attempt : StartAttempt} : s.attempts[a]? = some attempt →
    ∃ slot, s.slots[attempt.entry]? = some slot ∧ attempt.generation ≤ slot.generation ∧
      (attempt.outcome = none → attempt.generation = slot.generation → slot.state = .starting a)
  outcome {a h : Nat} {attempt : StartAttempt} : s.attempts[a]? = some attempt →
    attempt.outcome = some (.ok h) → ∃ handle, s.handles[h]? = some handle ∧
      handle.entry = attempt.entry ∧ handle.attended = true
  handle {h : Nat} {handle : Handle} : s.handles[h]? = some handle →
    ∃ slot, s.slots[handle.entry]? = some slot ∧ handle.generation ≤ slot.generation ∧
      (handle.attended = true → handle.generation = slot.generation →
        slot.state = .started h ∨ slot.state = .notStarted)
  owned {h : Nat} {handle : Handle} {slot : Slot} : s.handles[h]? = some handle →
    handle.disposed = false → s.slots[handle.entry]? = some slot → slot.state ≠ .started h →
      ∃ (t : Nat) (hs : List Nat), s.closing[t]? = some hs ∧ h ∈ hs
  closing {t h : Nat} {hs : List Nat} : s.closing[t]? = some hs → h ∈ hs →
    ∃ handle slot, s.handles[h]? = some handle ∧ s.slots[handle.entry]? = some slot ∧
      handle.generation < slot.generation

namespace Sound

theorem call (hi : s.Sound) : Sound { s with closing := s.closing ++ [[]] } where
  unusable := hi.unusable
  starting := hi.starting
  started := hi.started
  attempt := hi.attempt
  outcome := hi.outcome
  handle := hi.handle
  owned := by
    intro h handle slot hh hd hs hn
    obtain ⟨t, hs, ht, hm⟩ := hi.owned hh hd hs hn
    exact ⟨t, hs, getElem?_append_of_some ht, hm⟩
  closing := by
    intro t h hs ht hm
    obtain ⟨_, rfl⟩ | ht := getElem?_concat_cases ht
    · cases hm
    · exact hi.closing ht hm

/-- The slot of an attempt that is under way and still counts waits for that attempt. -/
theorem starting_of_current (hi : s.Sound) (ha : s.attempts[a]? = some ⟨e, g, none⟩)
    (hs : s.slots[e]? = some slot) (hg : slot.generation = g) : slot.state = .starting a := by
  obtain ⟨_, hs', _, hst⟩ := hi.attempt ha
  cases hs.symm.trans hs'
  exact hst rfl hg.symm

theorem starting_ended {e' a' : Nat} {slot' : Slot} (hi : s.Sound)
    (ha : s.attempts[a]? = some ⟨e, g, none⟩) (hs : s.slots[e']? = some slot')
    (hst : slot'.state = .starting a') (hne : e' ≠ e) (new : StartAttempt) :
    (s.attempts.set a new)[a']? = some ⟨e', slot'.generation, none⟩ := by
  have h := hi.starting hs hst
  apply getElem?_set_of_ne h
  intro heq
  subst heq
  cases h.symm.trans ha
  exact hne rfl

theorem attempt_ended {new : Slot} {a' : Nat} {attempt : StartAttempt} (hi : s.Sound)
    (ha : s.attempts[a]? = some ⟨e, g, none⟩) (hs : s.slots[e]? = some slot)
    (hg : slot.generation = g) (hn : new.generation = slot.generation)
    (outcome : Except ServerError Nat)
    (ha' : (s.attempts.set a ⟨e, g, some outcome⟩)[a']? = some attempt) :
    ∃ slot, (s.slots.set e new)[attempt.entry]? = some slot ∧
      attempt.generation ≤ slot.generation ∧
      (attempt.outcome = none → attempt.generation = slot.generation →
        slot.state = .starting a') := by
  obtain ⟨_, rfl⟩ | ⟨hne, ha'⟩ := getElem?_set_cases ha'
  · exact ⟨_, getElem?_set_of_some hs, Nat.le_of_eq (hn.trans hg).symm, nofun⟩
  · obtain ⟨slot', hs', hg', ho⟩ := hi.attempt ha'
    obtain ⟨_, rfl, hnew⟩ | ⟨_, hnew⟩ := getElem?_set_or hs hs'
    · rw [← hn] at hg' ho
      refine ⟨_, hnew _, hg', fun hnone h => absurd ?_ hne⟩
      have heq := (ho hnone h).symm.trans (hi.starting_of_current ha hs hg)
      cases heq
      rfl
    · exact ⟨_, hnew _, hg', ho⟩

theorem closing_set {new : Slot} {t h : Nat} {hs : List Nat} (hi : s.Sound)
    (he : s.slots[e]? = some slot) (hle : slot.generation ≤ new.generation)
    (ht : s.closing[t]? = some hs) (hm : h ∈ hs) :
    ∃ handle slot', s.handles[h]? = some handle ∧
      (s.slots.set e new)[handle.entry]? = some slot' ∧
      handle.generation < slot'.generation := by
  obtain ⟨handle, slot', hh, hs', hg⟩ := hi.closing ht hm
  obtain ⟨_, rfl, hnew⟩ | ⟨_, hnew⟩ := getElem?_set_or he hs'
  · exact ⟨handle, _, hh, hnew _, Nat.lt_of_lt_of_le hg hle⟩
  · exact ⟨handle, _, hh, hnew _, hg⟩

theorem unusable_set {new slot' : Slot} {e' : Nat} (hi : s.Sound)
    (hn : new.unusable = true → new.state = .notStarted)
    (hs : (s.slots.set e new)[e']? = some slot') (hu : slot'.unusable = true) :
    slot'.state = .notStarted := by
  obtain ⟨_, rfl⟩ | ⟨_, hs⟩ := getElem?_set_cases hs
  · exact hn hu
  · exact hi.unusable hs hu

/-- An attempt still counts after a slot has changed, unless that moved the slot on to another. -/
theorem attempt_set {new : Slot} {attempt : StartAttempt} (hi : s.Sound)
    (hs : s.slots[e]? = some slot) (hle : slot.generation ≤ new.generation)
    (hn : new.generation = slot.generation → ∀ a, slot.state = .starting a →
      new.state = .starting a)
    (ha : s.attempts[a]? = some attempt) :
    ∃ slot', (s.slots.set e new)[attempt.entry]? = some slot' ∧
      attempt.generation ≤ slot'.generation ∧
      (attempt.outcome = none → attempt.generation = slot'.generation →
        slot'.state = .starting a) := by
  obtain ⟨slot', hs', hg, ho⟩ := hi.attempt ha
  obtain ⟨_, rfl, hnew⟩ | ⟨_, hnew⟩ := getElem?_set_or hs hs'
  · refine ⟨_, hnew _, Nat.le_trans hg hle, fun hnone heq => ?_⟩
    have hsame := Nat.le_antisymm hg (heq ▸ hle)
    exact hn (heq.symm.trans hsame) a (ho hnone hsame)
  · exact ⟨_, hnew _, hg, ho⟩

theorem handle_set {new : Slot} (hi : s.Sound) (hs : s.slots[e]? = some slot)
    (hle : slot.generation ≤ new.generation)
    (hn : new.generation = slot.generation → ∀ h,
      slot.state = .started h ∨ slot.state = .notStarted →
      new.state = .started h ∨ new.state = .notStarted)
    (hh : s.handles[h]? = some handle) :
    ∃ slot', (s.slots.set e new)[handle.entry]? = some slot' ∧
      handle.generation ≤ slot'.generation ∧
      (handle.attended = true → handle.generation = slot'.generation →
        slot'.state = .started h ∨ slot'.state = .notStarted) := by
  obtain ⟨slot', hs', hg, ho⟩ := hi.handle hh
  obtain ⟨_, rfl, hnew⟩ | ⟨_, hnew⟩ := getElem?_set_or hs hs'
  · refine ⟨_, hnew _, Nat.le_trans hg hle, fun hat heq => ?_⟩
    have hsame := Nat.le_antisymm hg (heq ▸ hle)
    exact hn (heq.symm.trans hsame) h (ho hat hsame)
  · exact ⟨_, hnew _, hg, ho⟩

theorem owned_set {new slot' : Slot} (hi : s.Sound) (hs : s.slots[e]? = some slot)
    (hn : ∀ h, slot.state ≠ .started h) (hh : s.handles[h]? = some handle)
    (hd : handle.disposed = false) (hs' : (s.slots.set e new)[handle.entry]? = some slot')
    (hst : slot'.state ≠ .started h) :
    ∃ (t : Nat) (hs : List Nat), s.closing[t]? = some hs ∧ h ∈ hs := by
  obtain ⟨rfl, _⟩ | ⟨_, hs'⟩ := getElem?_set_cases hs'
  · exact hi.owned hh hd hs (hn h)
  · exact hi.owned hh hd hs' hst

theorem spawn (hi : s.Sound) (hs : s.slots[e]? = some slot) (hu : slot.unusable = false)
    (hn : slot.state = .notStarted) :
    Sound { s with
      slots := s.slots.set e
        { slot with state := .starting s.attempts.length, generation := slot.generation + 1 }
      attempts := s.attempts ++ [⟨e, slot.generation + 1, none⟩]
      events := .spawning e :: s.events } where
  unusable := hi.unusable_set fun hu' => by cases hu.symm.trans hu'
  starting := by
    intro e' a slot' hs' ha
    obtain ⟨rfl, rfl⟩ | ⟨_, hs'⟩ := getElem?_set_cases hs'
    · cases ha
      exact List.getElem?_concat_length
    · exact getElem?_append_of_some (hi.starting hs' ha)
  started := by
    intro e' h slot' hs' hh
    obtain ⟨_, rfl⟩ | ⟨_, hs'⟩ := getElem?_set_cases hs'
    · cases hh
    · exact hi.started hs' hh
  attempt := by
    intro a attempt ha
    obtain ⟨rfl, rfl⟩ | ha := getElem?_concat_cases ha
    · exact ⟨_, getElem?_set_of_some hs, Nat.le_refl _, fun _ _ => rfl⟩
    · exact hi.attempt_set hs (Nat.le_succ _) (fun h => absurd h (Nat.succ_ne_self _)) ha
  outcome := by
    intro a h attempt ha ho
    obtain ⟨_, rfl⟩ | ha := getElem?_concat_cases ha
    · cases ho
    · exact hi.outcome ha ho
  handle := hi.handle_set hs (Nat.le_succ _) fun h => absurd h (Nat.succ_ne_self _)
  owned := hi.owned_set hs fun h h' => by cases hn.symm.trans h'
  closing := hi.closing_set hs (Nat.le_succ _)

theorem fail (hi : s.Sound) (error : ServerError) (ha : s.attempts[a]? = some ⟨e, g, none⟩)
    (hs : s.slots[e]? = some slot) (hg : slot.generation = g) :
    Sound { s with
      slots := s.slots.set e { slot with state := .notStarted, unusable := !error.isRetryable }
      attempts := s.attempts.set a ⟨e, g, some (.error error)⟩
      events := .startFailed e error :: s.events } where
  unusable := hi.unusable_set fun _ => rfl
  starting := by
    intro e' a' slot' hs' ha'
    obtain ⟨_, rfl⟩ | ⟨hne, hs'⟩ := getElem?_set_cases hs'
    · cases ha'
    · exact hi.starting_ended ha hs' ha' hne _
  started := by
    intro e' h slot' hs' hh
    obtain ⟨_, rfl⟩ | ⟨_, hs'⟩ := getElem?_set_cases hs'
    · cases hh
    · exact hi.started hs' hh
  attempt := by
    intro a' attempt ha'
    exact hi.attempt_ended ha hs hg rfl _ ha'
  outcome := by
    intro a' h attempt ha' ho
    obtain ⟨_, rfl⟩ | ⟨_, ha'⟩ := getElem?_set_cases ha'
    · cases ho
    · exact hi.outcome ha' ho
  handle := hi.handle_set hs (Nat.le_refl _) fun _ _ _ => .inr rfl
  owned := hi.owned_set hs fun h h' => by cases h'.symm.trans (hi.starting_of_current ha hs hg)
  closing := hi.closing_set hs (Nat.le_refl _)

theorem failLate (hi : s.Sound) (error : ServerError) (ha : s.attempts[a]? = some ⟨e, g, none⟩)
    (hs : s.slots[e]? = some slot) (hg : slot.generation ≠ g) :
    Sound { s with attempts := s.attempts.set a ⟨e, g, some (.error error)⟩ } where
  unusable := hi.unusable
  starting := by
    intro e' a' slot' hs' ha'
    have h := hi.starting hs' ha'
    refine getElem?_set_of_ne h fun heq => hg ?_
    subst heq
    cases h.symm.trans ha
    cases hs.symm.trans hs'
    rfl
  started := hi.started
  attempt := by
    intro a' attempt ha'
    obtain ⟨rfl, rfl⟩ | ⟨_, ha'⟩ := getElem?_set_cases ha'
    · obtain ⟨slot', hs', hg', _⟩ := hi.attempt ha
      exact ⟨slot', hs', hg', nofun⟩
    · exact hi.attempt ha'
  outcome := by
    intro a' h attempt ha' ho
    obtain ⟨_, rfl⟩ | ⟨_, ha'⟩ := getElem?_set_cases ha'
    · cases ho
    · exact hi.outcome ha' ho
  handle := hi.handle
  owned := hi.owned
  closing := hi.closing

theorem install (hi : s.Sound) (ha : s.attempts[a]? = some ⟨e, g, none⟩)
    (hs : s.slots[e]? = some slot) (hg : slot.generation = g) :
    Sound { s with
      slots := s.slots.set e { slot with state := .started s.handles.length }
      attempts := s.attempts.set a ⟨e, g, some (.ok s.handles.length)⟩
      handles := s.handles ++ [⟨e, g, true, false⟩] } := by
  have hst := hi.starting_of_current ha hs hg
  constructor
  case unusable => exact hi.unusable_set fun hu => by cases hst.symm.trans (hi.unusable hs hu)
  case starting =>
    intro e' a' slot' hs' ha'
    obtain ⟨_, rfl⟩ | ⟨hne, hs'⟩ := getElem?_set_cases hs'
    · cases ha'
    · exact hi.starting_ended ha hs' ha' hne _
  case started =>
    intro e' h slot' hs' hh
    obtain ⟨rfl, rfl⟩ | ⟨_, hs'⟩ := getElem?_set_cases hs'
    · cases hh
      rw [hg]
      exact List.getElem?_concat_length
    · exact getElem?_append_of_some (hi.started hs' hh)
  case attempt =>
    intro a' attempt ha'
    exact hi.attempt_ended ha hs hg rfl _ ha'
  case outcome =>
    intro a' h attempt ha' ho
    obtain ⟨_, rfl⟩ | ⟨_, ha'⟩ := getElem?_set_cases ha'
    · cases ho
      exact ⟨_, List.getElem?_concat_length, rfl, rfl⟩
    · obtain ⟨handle, hh, he, hat⟩ := hi.outcome ha' ho
      exact ⟨handle, getElem?_append_of_some hh, he, hat⟩
  case handle =>
    intro h handle hh
    obtain ⟨rfl, rfl⟩ | hh := getElem?_concat_cases hh
    · exact ⟨_, getElem?_set_of_some hs, Nat.le_of_eq hg.symm, fun _ _ => .inl rfl⟩
    · refine hi.handle_set hs (Nat.le_refl _) (fun _ h' hor => ?_) hh
      rw [hst] at hor
      obtain hor | hor := hor <;> cases hor
  case owned =>
    intro h handle slot' hh hd hs' hn
    obtain ⟨rfl, rfl⟩ | hh' := getElem?_concat_cases hh
    · obtain ⟨_, rfl⟩ | ⟨hne, _⟩ := getElem?_set_cases hs'
      · exact absurd rfl hn
      · exact absurd rfl hne
    · exact hi.owned_set hs (fun h h' => by cases hst.symm.trans h') hh' hd hs' hn
  case closing =>
    intro t h hs' ht hm
    have hle : slot.generation ≤
        Slot.generation { slot with state := .started s.handles.length } := Nat.le_refl _
    obtain ⟨handle, slot', hh, hset, hg'⟩ := hi.closing_set hs hle ht hm
    exact ⟨handle, slot', getElem?_append_of_some hh, hset, hg'⟩

theorem discard (hi : s.Sound) (id : String) (ha : s.attempts[a]? = some ⟨e, g, none⟩)
    (hs : s.slots[e]? = some slot) (hg : slot.generation ≠ g) :
    Sound { s with
      attempts := s.attempts.set a
        ⟨e, g, some (.error (.transport id "registry shut down during startup"))⟩
      handles := s.handles ++ [⟨e, g, false, true⟩]
      events := .disposed s.handles.length :: s.events } where
  unusable := hi.unusable
  starting := (hi.failLate _ ha hs hg).starting
  started := by
    intro e' h slot' hs' hh
    exact getElem?_append_of_some (hi.started hs' hh)
  attempt := (hi.failLate _ ha hs hg).attempt
  outcome := by
    intro a' h attempt ha' ho
    obtain ⟨handle, hh, he, hat⟩ := (hi.failLate _ ha hs hg).outcome ha' ho
    exact ⟨handle, getElem?_append_of_some hh, he, hat⟩
  handle := by
    intro h handle hh
    obtain ⟨_, rfl⟩ | hh := getElem?_concat_cases hh
    · obtain ⟨slot', hs', hg', _⟩ := hi.attempt ha
      exact ⟨slot', hs', hg', nofun⟩
    · exact hi.handle hh
  owned := by
    intro h handle slot' hh hd hs' hn
    obtain ⟨_, rfl⟩ | hh := getElem?_concat_cases hh
    · cases hd
    · exact hi.owned hh hd hs' hn
  closing := by
    intro t h hs' ht hm
    obtain ⟨handle, slot', hh, hs', hg'⟩ := hi.closing ht hm
    exact ⟨handle, slot', getElem?_append_of_some hh, hs', hg'⟩

end Sound

section Disposed

variable {handles : List Handle}

theorem of_getElem?_disposed
    (hh : (handles.modify i ({ · with disposed := true }))[h]? = some handle) :
    ∃ old, handles[h]? = some old ∧ handle.entry = old.entry ∧
      handle.generation = old.generation ∧ handle.attended = old.attended ∧
      (handle.disposed = false → h ≠ i ∧ old.disposed = false) := by
  rw [List.getElem?_modify] at hh
  obtain ⟨old, ho, rfl⟩ := Option.map_eq_some_iff.1 hh
  refine ⟨old, ho, ?_⟩
  split
  · exact ⟨rfl, rfl, rfl, nofun⟩
  · rename_i hne
    exact ⟨rfl, rfl, rfl, fun hd => ⟨Ne.symm hne, hd⟩⟩

theorem getElem?_disposed (hh : handles[h]? = some handle) (i : Nat) :
    ∃ new, (handles.modify i ({ · with disposed := true }))[h]? = some new ∧
      new.entry = handle.entry ∧ new.generation = handle.generation ∧
      new.attended = handle.attended := by
  rw [List.getElem?_modify, hh]
  refine ⟨_, rfl, ?_⟩
  split <;> exact ⟨rfl, rfl, rfl⟩

theorem getElem?_disposed_of_ne (hh : handles[h]? = some handle) (hne : h ≠ i) :
    (handles.modify i ({ · with disposed := true }))[h]? = some handle := by
  rwa [List.getElem?_modify_ne _ _ hne.symm]

end Disposed

theorem mem_installed : h ∈ s.installed ↔
    ∃ (e : Nat) (slot : Slot), s.slots[e]? = some slot ∧ slot.state = .started h := by
  simp only [installed, List.mem_filterMap, Slot.handle?_eq_some]
  constructor
  · rintro ⟨slot, hm, hs⟩
    obtain ⟨e, he⟩ := List.mem_iff_getElem?.1 hm
    exact ⟨e, slot, he, hs⟩
  · rintro ⟨e, slot, he, hs⟩
    exact ⟨slot, List.mem_of_getElem? he, hs⟩

namespace Sound

theorem exit (hi : s.Sound) (hs : s.slots[e]? = some slot) (hst : slot.state = .started i) :
    Sound (dispose { s with
      slots := s.slots.set e { slot with state := .notStarted }
      events := .exited i :: s.events } i) := by
  have hii := hi.started hs hst
  constructor <;> simp only [slots_dispose, attempts_dispose, handles_dispose, closing_dispose]
  case unusable => exact hi.unusable_set fun _ => rfl
  case starting =>
    intro e' a' slot' hs' ha'
    obtain ⟨_, rfl⟩ | ⟨_, hs'⟩ := getElem?_set_cases hs'
    · cases ha'
    · exact hi.starting hs' ha'
  case started =>
    intro e' h slot' hs' hh
    obtain ⟨_, rfl⟩ | ⟨hne, hs'⟩ := getElem?_set_cases hs'
    · cases hh
    · have h' := hi.started hs' hh
      refine getElem?_disposed_of_ne h' fun heq => hne ?_
      subst heq
      exact congrArg Handle.entry (Option.some.inj (h'.symm.trans hii))
  case attempt =>
    intro a attempt ha
    exact hi.attempt_set hs (Nat.le_refl _) (fun _ a h => by cases hst.symm.trans h) ha
  case outcome =>
    intro a h attempt ha ho
    obtain ⟨handle, hh, he, hat⟩ := hi.outcome ha ho
    obtain ⟨new, hnew, he', _, hat'⟩ := getElem?_disposed hh i
    exact ⟨new, hnew, he'.trans he, hat'.trans hat⟩
  case handle =>
    intro h handle hh
    obtain ⟨old, hold, he, hg, hat, _⟩ := of_getElem?_disposed hh
    rw [he, hg, hat]
    exact hi.handle_set hs (Nat.le_refl _) (fun _ _ _ => .inr rfl) hold
  case owned =>
    intro h handle slot' hh hd hs' hn
    obtain ⟨old, hold, he, _, _, hd'⟩ := of_getElem?_disposed hh
    obtain ⟨hne, hd⟩ := hd' hd
    rw [he] at hs'
    obtain ⟨rfl, _⟩ | ⟨_, hs'⟩ := getElem?_set_cases hs'
    · apply hi.owned hold hd hs
      intro h'
      apply hne
      cases hst.symm.trans h'
      rfl
    · exact hi.owned hold hd hs' hn
  case closing =>
    intro t h hs' ht hm
    have hle : slot.generation ≤ Slot.generation { slot with state := .notStarted } :=
      Nat.le_refl _
    obtain ⟨handle, slot', hh, hset, hg⟩ := hi.closing_set hs hle ht hm
    obtain ⟨new, hnew, he, hg', _⟩ := getElem?_disposed hh i
    refine ⟨new, slot', hnew, ?_, ?_⟩
    · rwa [he]
    · rwa [hg']

theorem getElem?_vacated (hs : (s.slots.map Slot.vacated)[e]? = some slot) :
    ∃ old, s.slots[e]? = some old ∧ old.vacated = slot := by
  rw [List.getElem?_map] at hs
  exact Option.map_eq_some_iff.1 hs

theorem vacated_getElem? (hs : s.slots[e]? = some slot) :
    (s.slots.map Slot.vacated)[e]? = some slot.vacated := by
  rw [List.getElem?_map, hs]
  rfl

theorem shutdown (hi : s.Sound) (ht : s.closing[t]? = some []) :
    (s.shutDown t).Sound where
  unusable := by
    intro e slot hs hu
    obtain ⟨old, _, rfl⟩ := getElem?_vacated hs
    rfl
  starting := by
    intro e a slot hs ha
    obtain ⟨old, _, rfl⟩ := getElem?_vacated hs
    cases ha
  started := by
    intro e h slot hs hh
    obtain ⟨old, _, rfl⟩ := getElem?_vacated hs
    cases hh
  attempt := by
    intro a attempt ha
    obtain ⟨slot, hs, hg, _⟩ := hi.attempt ha
    exact ⟨_, vacated_getElem? hs, Nat.le_succ_of_le hg,
      fun _ h => absurd h (Nat.ne_of_lt (Nat.lt_succ_of_le hg))⟩
  outcome := hi.outcome
  handle := by
    intro h handle hh
    obtain ⟨slot, hs, hg, _⟩ := hi.handle hh
    exact ⟨_, vacated_getElem? hs, Nat.le_succ_of_le hg,
      fun _ h => absurd h (Nat.ne_of_lt (Nat.lt_succ_of_le hg))⟩
  owned := by
    intro h handle slot hh hd hs _
    obtain ⟨old, hold, rfl⟩ := getElem?_vacated hs
    by_cases hst : old.state = .started h
    · exact ⟨t, _, getElem?_set_of_some ht, mem_installed.2 ⟨_, old, hold, hst⟩⟩
    · obtain ⟨t', hs', ht', hm⟩ := hi.owned hh hd hold hst
      refine ⟨t', hs', getElem?_set_of_ne ht' fun heq => ?_, hm⟩
      subst heq
      cases ht.symm.trans ht'
      cases hm
  closing := by
    intro t' h hs ht' hm
    obtain ⟨_, rfl⟩ | ⟨_, ht'⟩ := getElem?_set_cases ht'
    · obtain ⟨e, slot, hs, hst⟩ := mem_installed.1 hm
      exact ⟨_, _, hi.started hs hst, vacated_getElem? hs, Nat.lt_succ_self _⟩
    · obtain ⟨handle, slot, hh, hs, hg⟩ := hi.closing ht' hm
      exact ⟨handle, _, hh, vacated_getElem? hs, Nat.lt_succ_of_lt hg⟩

theorem close {hs : List Nat} (hi : s.Sound) (ht : s.closing[t]? = some hs) (hm : i ∈ hs) :
    Sound { s.dispose i with closing := s.closing.set t (hs.filter (· != i)) } := by
  constructor <;> simp only [slots_dispose, attempts_dispose, handles_dispose]
  case unusable => exact hi.unusable
  case starting => exact hi.starting
  case started =>
    intro e h slot hs hh
    refine getElem?_disposed_of_ne (hi.started hs hh) fun heq => ?_
    subst heq
    obtain ⟨_, _, hh', hs', hg⟩ := hi.closing ht hm
    cases (hi.started hs hh).symm.trans hh'
    cases hs.symm.trans hs'
    exact Nat.lt_irrefl _ hg
  case attempt => exact hi.attempt
  case outcome =>
    intro a h attempt ha ho
    obtain ⟨handle, hh, he, hat⟩ := hi.outcome ha ho
    obtain ⟨new, hnew, he', _, hat'⟩ := getElem?_disposed hh i
    exact ⟨new, hnew, he'.trans he, hat'.trans hat⟩
  case handle =>
    intro h handle hh
    obtain ⟨old, hold, he, hg, hat, _⟩ := of_getElem?_disposed hh
    rw [he, hg, hat]
    exact hi.handle hold
  case owned =>
    intro h handle slot hh hd hs' hn
    obtain ⟨old, hold, he, _, _, hd'⟩ := of_getElem?_disposed hh
    obtain ⟨hne, hd⟩ := hd' hd
    rw [he] at hs'
    obtain ⟨t', hs'', ht', hm'⟩ := hi.owned hold hd hs' hn
    obtain ⟨_, rfl, hnew⟩ | ⟨_, hnew⟩ := getElem?_set_or ht ht'
    · exact ⟨t', _, hnew _, List.mem_filter.2 ⟨hm', bne_iff_ne.2 hne⟩⟩
    · exact ⟨t', hs'', hnew _, hm'⟩
  case closing =>
    intro t' h hs' ht' hm'
    have hc : ∃ (u : Nat) (hs : List Nat), s.closing[u]? = some hs ∧ h ∈ hs := by
      obtain ⟨_, rfl⟩ | ⟨_, ht'⟩ := getElem?_set_cases ht'
      · exact ⟨t, hs, ht, (List.mem_filter.1 hm').1⟩
      · exact ⟨t', hs', ht', hm'⟩
    obtain ⟨u, hs, hu, hm⟩ := hc
    obtain ⟨handle, slot, hh, hs, hg⟩ := hi.closing hu hm
    obtain ⟨new, hnew, he, hg', _⟩ := getElem?_disposed hh i
    refine ⟨new, slot, hnew, ?_, ?_⟩
    · rwa [he]
    · rwa [hg']

theorem change {s' : Servers} (hi : s.Sound) (h : Change s s') : s'.Sound := by
  cases h with
  | call => exact hi.call
  | spawn hs hu hn => exact hi.spawn hs hu hn
  | fail error ha hs hg => exact hi.fail error ha hs hg
  | failLate error ha hs hg => exact hi.failLate error ha hs hg
  | install ha hs hg => exact hi.install ha hs hg
  | discard id ha hs hg => exact hi.discard id ha hs hg
  | exit _ _ hs _ hst => exact hi.exit hs hst
  | close ht hm => exact hi.close ht hm

theorem step {s' : Servers} (hi : s.Sound) (h : Step s s') : s'.Sound := by
  cases h with
  | change h => exact hi.change h
  | shutdown ht => exact hi.shutdown ht

theorem steps {s' : Servers} (hi : s.Sound) (h : Steps s s') : s'.Sound := by
  induction h with
  | refl => exact hi
  | tail _ h ih => exact ih.step h

end Sound

end Servers

namespace Registry

variable {r : Registry}

def Reachable (r : Registry) : Prop :=
  ∃ root configs watch commandExists handshakeMs actions,
    r = (ofConfigs root configs watch commandExists handshakeMs).run actions

theorem reachable_run (root : Path) (configs : List ServerConfig) (watch : Option WatchFilter)
    (commandExists : String → Bool) (handshakeMs : Nat) (actions : List RegistryAction) :
    ((ofConfigs root configs watch commandExists handshakeMs).run actions).Reachable :=
  ⟨root, configs, watch, commandExists, handshakeMs, actions, rfl⟩

def Fresh (r : Registry) : Prop :=
  ∃ root configs watch commandExists handshakeMs,
    r = ofConfigs root configs watch commandExists handshakeMs

theorem Fresh.reachable (hr : r.Fresh) : r.Reachable := by
  obtain ⟨root, configs, watch, commandExists, handshakeMs, rfl⟩ := hr
  exact reachable_run root configs watch commandExists handshakeMs []

/-- A registry of one server, which wants every TypeScript document below `/w`. -/
def oneServer : Registry :=
  ofConfigs (.ofString "/w") [⟨"ts", "TypeScript", "tsserver", [], [.ofLanguage "typescript"]⟩] none
    (fun _ => true) 1000

def oneStarted : Registry :=
  oneServer.run
    [.call (.start "ts"), .resume 0, .deliver 0 0, .spawned 0 (.running false), .deliver 0 0]

theorem reachable_oneServer (actions : List RegistryAction) : (oneServer.run actions).Reachable :=
  ⟨_, _, _, _, _, actions, rfl⟩

theorem run_append (r : Registry) (first second : List RegistryAction) :
    r.run (first ++ second) = (r.run first).run second :=
  List.foldl_append

theorem Reachable.run (h : r.Reachable) (actions : List RegistryAction) :
    (r.run actions).Reachable := by
  obtain ⟨root, configs, watch, commandExists, handshakeMs, first, rfl⟩ := h
  rw [← run_append]
  exact reachable_run root configs watch commandExists handshakeMs _

theorem Reachable.step (h : r.Reachable) (action : RegistryAction) : (r.step action).Reachable :=
  h.run [action]

/-- What holds of a registry in which nothing has been started, and is kept by every step, holds
of every state that can be reached. -/
theorem Reachable.induction {p : Registry → Prop} (h : r.Reachable)
    (start : ∀ root configs watch commandExists handshakeMs,
      p (ofConfigs root configs watch commandExists handshakeMs))
    (step : ∀ r action, r.Reachable → p r → p (r.step action)) : p r := by
  obtain ⟨root, configs, watch, commandExists, handshakeMs, actions, rfl⟩ := h
  induction actions using List.reverseRecOn with
  | nil => exact start root configs watch commandExists handshakeMs
  | append_singleton actions action ih =>
    rw [run_append]
    exact step _ action (reachable_run root configs watch commandExists handshakeMs actions) ih

theorem slot_ofConfigs {root : Path} {configs : List ServerConfig} {watch : Option WatchFilter}
    {commandExists : String → Bool} {handshakeMs e : Nat} {slot : Slot}
    (h : (ofConfigs root configs watch commandExists handshakeMs).servers.slots[e]? = some slot) :
    slot = ⟨.notStarted, 0, false⟩ := by
  simp only [servers, ofConfigs, List.map_map, List.getElem?_map] at h
  obtain ⟨config, _, rfl⟩ := Option.map_eq_some_iff.1 h
  rfl

theorem sound_ofConfigs (root : Path) (configs : List ServerConfig) (watch : Option WatchFilter)
    (commandExists : String → Bool) (handshakeMs : Nat) :
    (ofConfigs root configs watch commandExists handshakeMs).servers.Sound where
  unusable hs _ := by rw [slot_ofConfigs hs]
  starting hs ha := by
    rw [slot_ofConfigs hs] at ha
    cases ha
  started hs hh := by
    rw [slot_ofConfigs hs] at hh
    cases hh
  attempt := nofun
  outcome := nofun
  handle := nofun
  owned := nofun
  closing := nofun

theorem Reachable.sound (h : r.Reachable) : r.servers.Sound := by
  apply h.induction (p := fun r => r.servers.Sound) sound_ofConfigs
  intro r action _ hi
  exact hi.steps (servers_steps r action)

end Registry
end Switchyard
