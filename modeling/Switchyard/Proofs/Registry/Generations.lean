import Switchyard.Proofs.Registry.Callers

namespace Switchyard

inductive SlotState.Move : SlotState → SlotState → Prop
  | begin (attempt : Nat) : Move .notStarted (.starting attempt)
  | succeed (attempt handle : Nat) : Move (.starting attempt) (.started handle)
  | giveUp (attempt : Nat) : Move (.starting attempt) .notStarted
  | vacate (handle : Nat) : Move (.started handle) .notStarted

def Slot.Moves (x y : Slot) : Prop :=
  x.generation ≤ y.generation ∧ (y.state = x.state ∨ x.state.Move y.state)

def Slot.Loses (x y : Slot) : Prop :=
  y = x ∨ ∃ h, x.state = .started h ∧ y = { x with state := .notStarted }

namespace Slot

theorem Moves.refl (x : Slot) : x.Moves x := ⟨Nat.le_refl _, .inl rfl⟩

theorem Loses.refl (x : Slot) : x.Loses x := .inl rfl

theorem moves_vacated (x : Slot) : x.Moves x.vacated := by
  refine ⟨Nat.le_succ _, ?_⟩
  cases hx : x.state with
  | notStarted => exact .inl rfl
  | starting a => exact .inr (.giveUp a)
  | started h => exact .inr (.vacate h)

/-- A server that is lost as soon as it has come up leaves the slot as a failed start does. -/
theorem Moves.loses {x y z : Slot} (h : x.Moves y) (h' : y.Loses z) : x.Moves z := by
  obtain rfl | ⟨handle, hy, rfl⟩ := h'
  · exact h
  · obtain ⟨hg, hs | hm⟩ := h
    · refine ⟨hg, .inr ?_⟩
      rw [← hs, hy]
      exact .vacate handle
    · refine ⟨hg, ?_⟩
      rw [hy] at hm
      generalize x.state = state at hm
      cases hm
      exact .inr (.giveUp _)

end Slot

namespace Servers

variable {s s' : Servers}

theorem Change.moves (h : Change s s') (hi : s.Sound) : Kept Slot.Moves s.slots s'.slots := by
  cases h with
  | call => exact .refl .refl _
  | spawn hs _ hn =>
    refine .set .refl hs ⟨Nat.le_succ _, .inr ?_⟩
    rw [hn]
    exact .begin _
  | fail error ha hs hg =>
    refine .set .refl hs ⟨Nat.le_refl _, .inr ?_⟩
    rw [hi.starting_of_current ha hs hg]
    exact .giveUp _
  | failLate => exact .refl .refl _
  | install ha hs hg =>
    refine .set .refl hs ⟨Nat.le_refl _, .inr ?_⟩
    rw [hi.starting_of_current ha hs hg]
    exact .succeed _ _
  | discard => exact .refl .refl _
  | exit _ _ hs _ hst =>
    rw [slots_dispose]
    refine .set .refl hs ⟨Nat.le_refl _, .inr ?_⟩
    rw [hst]
    exact .vacate _
  | close =>
    rw [slots_dispose]
    exact .refl .refl _

theorem ChangeOnce.moves (h : ChangeOnce s s') (hi : s.Sound) :
    Kept Slot.Moves s.slots s'.slots := by
  cases h with
  | refl => exact .refl .refl _
  | single h => exact h.moves hi

end Servers

namespace Registry

variable {r : Registry} {a e h t : Nat}

theorem loses_exit (r : Registry) (h : Nat) :
    Kept Slot.Loses r.servers.slots (r.exit h).servers.slots := by
  unfold exit
  split
  · exact .refl .refl _
  split
  · exact .refl .refl _
  rename_i entry he
  split
  · split
    · rename_i i hi
      rw [servers_dispose, servers_note rfl, servers_modifyEntry_eq he]
      · rw [Servers.slots_dispose]
        exact .set .refl (slot_of_entry he) (.inr ⟨i, hi, rfl⟩)
      · exact fun _ => rfl
    · exact .refl .refl _
  · exact .refl .refl _

theorem moves_spawned (hi : r.servers.Sound) (a : Nat) (outcome : SpawnOutcome) :
    Kept Slot.Moves r.servers.slots (r.spawned a outcome).servers.slots := by
  unfold spawned
  split
  · exact .refl .refl _
  rename_i attempt ha
  split
  · rename_i entry he ho
    cases outcome with
    | running exited =>
      have hinstall := servers_install ha ho he entry.config.id
      cases exited with
      | false => exact hinstall.moves hi
      | true =>
        simp only [install_exited]
        split
        · rename_i hc
          rw [hc] at hinstall
          refine (hinstall.moves hi).trans ?_ (loses_exit _ _)
          intro x y z hxy hyz
          exact hxy.loses hyz
        · rename_i hc
          rw [eq_false_of_ne_true hc] at hinstall
          exact hinstall.moves hi
    | failed error => exact (servers_failAttempt ha ho he error).moves hi
    | timedOut => exact (servers_failAttempt ha ho he _).moves hi
  · exact .refl .refl _

theorem moves_resume (r : Registry) (t : Nat) :
    Kept Slot.Moves r.servers.slots (r.resume t).servers.slots := by
  obtain h | ⟨_, h⟩ := servers_resume r t
  · rw [h]
    exact .refl .refl _
  · rw [h]
    exact .map Slot.moves_vacated _

theorem moves_step (hi : r.servers.Sound) (action : RegistryAction) :
    Kept Slot.Moves r.servers.slots (r.step action).servers.slots := by
  cases action with
  | call call => exact .refl .refl _
  | resume t => exact moves_resume r t
  | read t result =>
    rw [step, servers_read]
    exact .refl .refl _
  | deliver t d => exact (servers_deliver r t d).moves hi
  | sent t d accepted =>
    rw [step, servers_endSending]
    exact .refl .refl _
  | spawned a outcome => exact moves_spawned hi a outcome
  | closed t h => exact (servers_close r t h).moves hi
  | exit h => exact (servers_exit r h).moves hi
  | notify h method params =>
    rw [step, servers_receive]
    exact .refl .refl _
  | hub call => exact .refl .refl _

theorem entry_of_slot {slot : Slot} (hs : r.servers.slots[e]? = some slot) :
    ∃ entry, r.entries[e]? = some entry ∧ entry.slot = slot := by
  simp only [servers, List.getElem?_map] at hs
  exact Option.map_eq_some_iff.1 hs

theorem Reachable.slot_moves {x : Entry} (hr : r.Reachable) (hx : r.entries[e]? = some x)
    (action : RegistryAction) :
    ∃ y, (r.step action).entries[e]? = some y ∧ x.slot.Moves y.slot := by
  obtain ⟨slot, hs, hm⟩ := moves_step hr.sound action e x.slot (slot_of_entry hx)
  obtain ⟨y, hy, rfl⟩ := entry_of_slot hs
  exact ⟨y, hy, hm⟩

theorem Reachable.slot_moves_run {x : Entry} (hr : r.Reachable) (hx : r.entries[e]? = some x)
    (actions : List RegistryAction) :
    ∃ y, (r.run actions).entries[e]? = some y ∧ x.slot.generation ≤ y.slot.generation ∧
      Relation.ReflTransGen SlotState.Move x.slot.state y.slot.state := by
  induction actions generalizing r x with
  | nil => exact ⟨x, hx, Nat.le_refl _, .refl⟩
  | cons action actions ih =>
    obtain ⟨y, hy, hle, hm⟩ := hr.slot_moves hx action
    obtain ⟨z, hz, hle', hm'⟩ := ih (hr.step action) hy
    refine ⟨z, hz, Nat.le_trans hle hle', ?_⟩
    obtain hs | hm := hm
    · rwa [← hs]
    · exact .head hm hm'

/-- A start attempt that does not belong to the generation of its slot any more. -/
def Outdated (r : Registry) (a : Nat) : Prop :=
  ∃ attempt entry, r.attempts[a]? = some attempt ∧ r.entries[attempt.entry]? = some entry ∧
    attempt.generation ≠ entry.slot.generation

/-- What callers are told whose start was overtaken by a shutdown. -/
def overtaken (id : String) : ServerError := .transport id "registry shut down during startup"

theorem Outdated.current_eq_false {attempt : StartAttempt} {entry : Entry}
    (ho : attempt.generation ≠ entry.slot.generation) :
    (entry.slot.generation == attempt.generation) = false :=
  beq_false_of_ne ho.symm

theorem Outdated.entries_spawned (ho : r.Outdated a) (outcome : SpawnOutcome) :
    (r.spawned a outcome).entries = r.entries := by
  obtain ⟨attempt, entry, ha, he, hg⟩ := ho
  unfold spawned
  simp only [ha, he]
  split
  · rename_i entry' _ heq _
    cases heq
    rw [Outdated.current_eq_false hg]
    cases outcome with
    | running exited =>
      simp only [install, Bool.false_eq_true, if_false, endAttempt]
      exact entries_dispose _ _
    | failed error => rfl
    | timedOut => rfl
  · rfl

/-- A server that comes up too late is ended at once, and the attempt has failed. -/
theorem Outdated.spawned_running (ho : r.Outdated a) (hn : r.outcome? a = none) (exited : Bool) :
    ∃ attempt entry, r.attempts[a]? = some attempt ∧ r.entries[attempt.entry]? = some entry ∧
      r.spawned a (.running exited) = { r with
        attempts := r.attempts.modify a
          ({ · with outcome := some (.error (overtaken entry.config.id)) })
        handles := r.handles ++ [⟨attempt.entry, attempt.generation, false, true⟩]
        history := .disposed r.handles.length :: r.history } := by
  obtain ⟨attempt, entry, ha, he, hg⟩ := ho
  refine ⟨attempt, entry, ha, he, ?_⟩
  have hout : attempt.outcome = none := by simpa [outcome?, ha] using hn
  unfold spawned
  simp only [ha, he, hout, Outdated.current_eq_false hg]
  simp only [install, Bool.false_eq_true, if_false]
  rw [dispose_last]
  rfl

theorem awaits_of_tasks {r' : Registry} (ht : r'.tasks = r.tasks) {t i : Nat} :
    r'.Awaits t i a ↔ r.Awaits t i a := by
  rw [Awaits, Awaits, ht]

/-- Who waits for an attempt that comes up too late is told that it was overtaken. -/
theorem Outdated.awaits_run {id : String} {t i : Nat} {exited : Bool} (hr : r.Reachable)
    (hout : (r.spawned a (.running exited)).outcome? a = some (.error (overtaken id)))
    (hw : r.Awaits t i a) (more : List RegistryAction) :
    ((r.spawned a (.running exited)).run more).Awaits t i a ∧
        ((r.spawned a (.running exited)).run more).GoesOn t i (.error (overtaken id)) ∨
      ((r.spawned a (.running exited)).run more).HasGot t i (.error (overtaken id)) := by
  have hr' : (r.spawned a (.running exited)).Reachable := hr.step (.spawned a (.running exited))
  have hw' : (r.spawned a (.running exited)).Awaits t i a := by
    rwa [awaits_of_tasks (tasks_spawned r a _)]
  have hlater := outcome?_before (servers_run _ more).before hout
  obtain hwait | ⟨outcome, hout', hgot⟩ := hw'.run hr' more
  · exact .inl ⟨hwait, hwait.goesOn (hr'.run more) hlater⟩
  · cases hlater.symm.trans hout'
    exact .inr hgot

theorem Reachable.exit_eq_self (hr : r.Reachable) (hn : ∀ e, ¬ r.Installed e h) :
    r.exit h = r := by
  unfold exit
  split
  · rfl
  rename_i handle hh
  split
  · rfl
  rename_i entry he
  split
  · rename_i hc
    simp only [Bool.and_eq_true, beq_iff_eq] at hc
    split
    · rename_i i hi
      obtain ⟨slot, hs, _, hst⟩ := hr.sound.handle hh
      cases (slot_of_entry he).symm.trans hs
      obtain hst | hst := hst hc.1 hc.2.symm
      · exact absurd ⟨entry, he, hst⟩ (hn _)
      · cases hi.symm.trans hst
    · rfl
  · rfl

/-- What is outdated changes nothing. Slots get no younger, and move in one order only; a start
attempt that a shutdown has overtaken leaves all entries alone, and if its server comes up, that is
ended at once and whoever waits for it is told that it was overtaken; and the exit of a server that
is in no slot leaves everything alone. -/
theorem outdated_inert (hr : r.Reachable) :
    (∀ (e : Nat) (x : Entry), r.entries[e]? = some x →
      (∀ action, ∃ y, (r.step action).entries[e]? = some y ∧ x.slot.Moves y.slot) ∧
      ∀ actions, ∃ y, (r.run actions).entries[e]? = some y ∧
        x.slot.generation ≤ y.slot.generation ∧
        Relation.ReflTransGen SlotState.Move x.slot.state y.slot.state) ∧
      (∀ a outcome, r.Outdated a → (r.step (.spawned a outcome)).entries = r.entries) ∧
      (∀ a exited, r.Outdated a → r.outcome? a = none →
        ∃ attempt entry, r.attempts[a]? = some attempt ∧ r.entries[attempt.entry]? = some entry ∧
          (r.step (.spawned a (.running exited))).handles =
            r.handles ++ [⟨attempt.entry, attempt.generation, false, true⟩] ∧
          (r.step (.spawned a (.running exited))).history =
            .disposed r.handles.length :: r.history ∧
          (r.step (.spawned a (.running exited))).outcome? a =
            some (.error (overtaken entry.config.id)) ∧
          ∀ t i, r.Awaits t i a → ∀ more,
            ((r.step (.spawned a (.running exited))).run more).Awaits t i a ∧
              ((r.step (.spawned a (.running exited))).run more).GoesOn t i
                (.error (overtaken entry.config.id)) ∨
            ((r.step (.spawned a (.running exited))).run more).HasGot t i
              (.error (overtaken entry.config.id))) ∧
      ∀ h, (∀ e, ¬ r.Installed e h) → r.step (.exit h) = r := by
  refine ⟨?_, ?_, ?_, ?_⟩
  · intro e x hx
    exact ⟨hr.slot_moves hx, hr.slot_moves_run hx⟩
  · intro a outcome ho
    exact ho.entries_spawned outcome
  · intro a exited ho hn
    obtain ⟨attempt, entry, ha, he, heq⟩ := ho.spawned_running hn exited
    have hout : (r.spawned a (.running exited)).outcome? a =
        some (.error (overtaken entry.config.id)) := by
      rw [heq]
      simp [outcome?, ha]
    refine ⟨attempt, entry, ha, he, ?_, ?_, hout, ?_⟩
    · simp only [step, heq]
    · simp only [step, heq]
    · intro t i hw more
      exact Outdated.awaits_run hr hout hw more
  · intro h hn
    exact hr.exit_eq_self hn

/-- A start of the server has been overtaken by a shutdown of all servers and by another start. -/
def oneOvertaken : Registry :=
  oneServer.run
    [.call (.start "ts"), .resume 0, .deliver 0 0, .call .shutdownAll, .resume 1,
      .call (.start "ts"), .resume 2, .deliver 2 0, .spawned 1 (.running false)]

/-- The server that comes up too late neither takes the place of the other one nor takes it away
when it exits. -/
theorem outdated_inert_overtaken : oneOvertaken.Outdated 0 ∧
    (oneOvertaken.step (.spawned 0 (.running false))).entries = oneOvertaken.entries ∧
    (oneOvertaken.step (.spawned 0 (.running false))).GoesOn 0 0 (.error (overtaken "ts")) ∧
    (oneOvertaken.step (.spawned 0 (.running false))).step (.exit 1) =
      oneOvertaken.step (.spawned 0 (.running false)) := by
  have hr : oneOvertaken.Reachable := reachable_oneServer _
  have ho : oneOvertaken.Outdated 0 := ⟨_, _, rfl, rfl, nofun⟩
  obtain ⟨_, hentries, hlate, _⟩ := outdated_inert hr
  obtain ⟨attempt, entry, ha, he, _, _, _, hawaits⟩ := hlate 0 false ho rfl
  cases ha
  cases he
  have hgoes : (oneOvertaken.step (.spawned 0 (.running false))).GoesOn 0 0
      (.error (overtaken "ts")) := by
    obtain ⟨_, h⟩ | h := hawaits 0 0 ⟨_, _, _, _, rfl, rfl⟩ []
    · exact h
    · obtain ⟨_, _, _, _, ht, hd, hg⟩ | ⟨_, _, ht, _⟩ := h
      · cases ht
        cases hd
        exact hg.elim
      · cases ht
  refine ⟨ho, hentries 0 _ ho, hgoes, ?_⟩
  obtain ⟨_, _, _, hexit⟩ := outdated_inert (hr.step (.spawned 0 (.running false)))
  apply hexit 1
  rintro e ⟨entry, he, hs⟩
  rw [hentries 0 _ ho] at he
  cases e with
  | zero =>
    cases he
    cases hs
  | succ e => cases he

end Registry
end Switchyard
