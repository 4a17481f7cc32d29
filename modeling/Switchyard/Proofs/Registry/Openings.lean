import Switchyard.Proofs.Registry.Deliveries
import Switchyard.Proofs.Registry.Reports
import Switchyard.Proofs.Registry.TurnOrder

namespace Switchyard

namespace RegistryEvent

/-- What an event makes of a document at a server: it is open from then on, or it is not. -/
def opens? (h : Nat) (uri : String) : RegistryEvent → Option Bool
  | .accepted _ i (.didOpen u _ _ _) => if i = h ∧ u = uri then some true else none
  | .accepted _ i (.didClose u) => if i = h ∧ u = uri then some false else none
  | _ => none

/-- A server has a document open after some events, the last one first. -/
def hasOpen (events : List RegistryEvent) (h : Nat) (uri : String) : Bool :=
  (events.findSome? (opens? h uri)).getD false

theorem hasOpen_cons {event : RegistryEvent} {events : List RegistryEvent} {h : Nat}
    {uri : String} (hc : hasOpen (event :: events) h uri = true) :
    hasOpen events h uri = true ∨ event.opens? h uri = some true := by
  unfold hasOpen at hc ⊢
  cases ho : event.opens? h uri with
  | none => simpa [ho] using hc
  | some b =>
    right
    simpa [ho] using hc

theorem hasOpen_closed {event : RegistryEvent} {events : List RegistryEvent} {h : Nat}
    {uri : String} (ho : event.opens? h uri = some false) :
    hasOpen (event :: events) h uri = false := by
  simp [hasOpen, ho]

theorem opens?_eq_some_true {event : RegistryEvent} {h : Nat} {uri : String}
    (ho : event.opens? h uri = some true) :
    ∃ t language version text, event = .accepted t h (.didOpen uri language version text) := by
  unfold opens? at ho
  split at ho
  · split at ho
    · rename_i t i u language version text heq
      obtain ⟨rfl, rfl⟩ := heq
      exact ⟨t, language, version, text, rfl⟩
    · cases ho
  · split at ho <;> cases ho
  · cases ho

theorem hasOpen_filter (events : List RegistryEvent) (h : Nat) (uri : String) :
    hasOpen (events.filter (·.isAcceptance)) h uri = hasOpen events h uri := by
  unfold hasOpen
  congr 1
  induction events with
  | nil => rfl
  | cons event events ih =>
    cases hp : event.isAcceptance with
    | true => rw [List.filter_cons_of_pos hp, List.findSome?_cons, List.findSome?_cons, ih]
    | false =>
      have hn : event.opens? h uri = none := by cases event <;> first | rfl | cases hp
      rw [List.filter_cons_of_neg (by simp [hp]), List.findSome?_cons, hn, ih]

end RegistryEvent

namespace Notice

def isOpening : Notice → Bool
  | .didOpen _ _ _ _ => true
  | _ => false

end Notice

namespace Errand

def isChange : Errand → Bool
  | .changing _ _ _ _ => true
  | _ => false

end Errand

namespace Servers

variable {s s' s'' : Servers} {e a h : Nat}

/-- What a slot has for its server and what an attempt has come to were that before, or came up
since. -/
structure Arrives (s s' : Servers) : Prop where
  handles : s.handles.length ≤ s'.handles.length
  slots {e h : Nat} : (s'.slots[e]?).map (·.state) = some (.started h) →
    (s.slots[e]?).map (·.state) = some (.started h) ∨ s.handles.length ≤ h
  attempts {a h : Nat} : (s'.attempts[a]?).bind (·.outcome) = some (.ok h) →
    (s.attempts[a]?).bind (·.outcome) = some (.ok h) ∨ s.handles.length ≤ h

namespace Arrives

theorem refl (s : Servers) : Arrives s s := ⟨Nat.le_refl _, .inl, .inl⟩

theorem trans (h : Arrives s s') (h' : Arrives s' s'') : Arrives s s'' where
  handles := Nat.le_trans h.handles h'.handles
  slots hs := by
    obtain hs | hle := h'.slots hs
    · exact h.slots hs
    · exact .inr (Nat.le_trans h.handles hle)
  attempts ha := by
    obtain ha | hle := h'.attempts ha
    · exact h.attempts ha
    · exact .inr (Nat.le_trans h.handles hle)

end Arrives

theorem state_set {l : List Slot} {new : Slot} {i : Nat}
    (hs : ((l.set i new)[e]?).map (·.state) = some (.started h)) :
    (l[e]?).map (·.state) = some (.started h) ∨ new.state = .started h := by
  obtain ⟨slot, hslot, hst⟩ := Option.map_eq_some_iff.1 hs
  obtain ⟨_, rfl⟩ | ⟨_, hslot⟩ := getElem?_set_cases hslot
  · exact .inr hst
  · exact .inl (Option.map_eq_some_iff.2 ⟨slot, hslot, hst⟩)

theorem outcome_set {l : List StartAttempt} {new : StartAttempt} {i : Nat}
    (ha : ((l.set i new)[a]?).bind (·.outcome) = some (.ok h)) :
    (l[a]?).bind (·.outcome) = some (.ok h) ∨ new.outcome = some (.ok h) := by
  obtain ⟨attempt, hattempt, ho⟩ := Option.bind_eq_some_iff.1 ha
  obtain ⟨_, rfl⟩ | ⟨_, hattempt⟩ := getElem?_set_cases hattempt
  · exact .inr ho
  · exact .inl (Option.bind_eq_some_iff.2 ⟨attempt, hattempt, ho⟩)

theorem Change.arrives (hc : Change s s') : Arrives s s' := by
  cases hc with
  | call => exact ⟨Nat.le_refl _, .inl, .inl⟩
  | spawn =>
    refine ⟨Nat.le_refl _, fun hs => .inl ((state_set hs).resolve_right nofun), fun ha => ?_⟩
    obtain ⟨attempt, hattempt, ho⟩ := Option.bind_eq_some_iff.1 ha
    obtain ⟨_, rfl⟩ | hattempt := getElem?_concat_cases hattempt
    · cases ho
    · exact .inl (Option.bind_eq_some_iff.2 ⟨attempt, hattempt, ho⟩)
  | fail =>
    exact ⟨Nat.le_refl _, fun hs => .inl ((state_set hs).resolve_right nofun),
      fun ha => .inl ((outcome_set ha).resolve_right nofun)⟩
  | failLate =>
    exact ⟨Nat.le_refl _, .inl, fun ha => .inl ((outcome_set ha).resolve_right nofun)⟩
  | install =>
    refine ⟨by simp, fun hs => (state_set hs).imp_right ?_, fun ha => (outcome_set ha).imp_right ?_⟩
    · rintro ⟨⟩
      exact Nat.le_refl _
    · rintro ⟨⟩
      exact Nat.le_refl _
  | discard =>
    exact ⟨by simp, .inl, fun ha => .inl ((outcome_set ha).resolve_right nofun)⟩
  | exit =>
    refine ⟨?_, fun hs => ?_, fun ha => ?_⟩
    · simp [handles_dispose]
    · rw [slots_dispose] at hs
      exact .inl ((state_set hs).resolve_right nofun)
    · rw [attempts_dispose] at ha
      exact .inl ha
  | close =>
    refine ⟨?_, fun hs => ?_, fun ha => ?_⟩
    · simp [handles_dispose]
    · rw [slots_dispose] at hs
      exact .inl hs
    · rw [attempts_dispose] at ha
      exact .inl ha

theorem Step.arrives (h : Step s s') : Arrives s s' := by
  cases h with
  | change h => exact h.arrives
  | shutdown =>
    refine ⟨Nat.le_refl _, fun hs => ?_, .inl⟩
    obtain ⟨slot, hslot, hst⟩ := Option.map_eq_some_iff.1 hs
    simp only [shutDown, List.getElem?_map] at hslot
    obtain ⟨old, _, rfl⟩ := Option.map_eq_some_iff.1 hslot
    cases hst

theorem Steps.arrives (h : Steps s s') : Arrives s s' := by
  induction h with
  | refl => exact .refl s
  | tail _ h ih => exact ih.trans h.arrives

end Servers

def Entry.Keeps (x y : Entry) : Prop :=
  ∀ h, x.slot.state = .started h → y.slot.state = .started h → x.opened ⊆ y.opened

def Entry.Loses (x y : Entry) : Prop := y = x ∨ y.slot.state = .notStarted

theorem Entry.Keeps.refl (x : Entry) : x.Keeps x := fun _ _ _ => List.Subset.refl _

theorem Entry.Keeps.loses {x y z : Entry} (h : x.Keeps y) (h' : y.Loses z) : x.Keeps z := by
  obtain rfl | hn := h'
  · exact h
  · intro i _ hz
    cases hn.symm.trans hz

namespace Registry

variable {r r' : Registry} {t u e h i a : Nat} {uri v : String}

/-- An entry has a document on record as one that its server was sent an opening for. -/
def Opened (r : Registry) (e : Nat) (uri : String) : Prop :=
  ∃ entry, r.entries[e]? = some entry ∧ uri ∈ entry.opened

theorem Opened.kept (ho : r.Opened e uri) (hk : Kept Entry.Keeps r.entries r'.entries)
    (hi : r.Installed e h) (hi' : r'.Installed e h) : r'.Opened e uri := by
  obtain ⟨entry, he, hm⟩ := ho
  obtain ⟨x, hx, hst⟩ := hi
  obtain ⟨y, hy, hst'⟩ := hi'
  cases he.symm.trans hx
  obtain ⟨new, hnew, hsub⟩ := hk e entry he
  cases hy.symm.trans hnew
  exact ⟨y, hy, hsub h hst hst' hm⟩

theorem entries_holdLock (r : Registry) (t : Nat) (event : DocumentEvent) (path : Path)
    (uri : String) : (r.holdLock t event path uri).entries = r.entries := by
  cases event with
  | closed => exact entries_finish _ t
  | _ => rfl

theorem entries_beginDocument (r : Registry) (t : Nat) (event : DocumentEvent) (file : Path) :
    (r.beginDocument t event file).entries = r.entries := by
  unfold beginDocument
  dsimp only
  split
  · rfl
  · rename_i uri _
    split
    · exact entries_holdLock (r.requestLock t uri) t event _ uri
    · rfl

theorem entries_begin (r : Registry) (t : Nat) (call : RegistryCall) :
    (r.begin t call).entries = r.entries ∨
      (r.begin t call).entries = r.entries.map Entry.vacated := by
  cases call with
  | document event file => exact .inl (entries_beginDocument r t event file)
  | watched event file =>
    simp only [begin]
    split
    · exact .inl (entries_beginDocument r t event file)
    · exact .inl rfl
  | start id =>
    simp only [begin]
    split <;> exact .inl rfl
  | route file method params => exact .inl (entries_finish _ t)
  | prewarm dryRun languages =>
    simp only [begin]
    split
    · exact .inl rfl
    · exact .inl (entries_finish _ t)
  | shutdownAll =>
    simp only [begin, takeAll_eq]
    exact .inr rfl

theorem entries_resume (r : Registry) (t : Nat) :
    (r.resume t).entries = r.entries ∨ (r.resume t).entries = r.entries.map Entry.vacated := by
  unfold resume
  split
  · exact entries_begin r t _
  · split
    · exact .inl (entries_holdLock r t _ _ _)
    · exact .inl rfl
  · exact .inl rfl

theorem entries_read (r : Registry) (t : Nat) (result : Except FileError String) :
    (r.read t result).entries = r.entries := by
  unfold read
  split
  · rename_i uri _
    cases result with
    | error error => rfl
    | ok text => exact entries_finish _ t
  · rfl

theorem entries_close (r : Registry) (t h : Nat) : (r.close t h).entries = r.entries := by
  unfold close
  split
  · split
    · exact entries_dispose r h
    · rfl
  · rfl

theorem loses_modify {f : Entry → Entry} (e : Nat) (hf : ∀ x, (f x).slot.state = .notStarted) :
    Kept Entry.Loses r.entries (r.entries.modify e f) := by
  intro j x hx
  rw [List.getElem?_modify, hx]
  refine ⟨_, rfl, ?_⟩
  split
  · exact .inr (hf x)
  · exact .inl rfl

theorem entries_exit (r : Registry) (h : Nat) :
    Kept Entry.Loses r.entries (r.exit h).entries := by
  have hsame : Kept Entry.Loses r.entries r.entries := .refl (fun _ => .inl rfl) _
  unfold exit
  split
  · exact hsame
  split
  · exact hsame
  split
  · split
    · rw [entries_dispose]
      exact loses_modify _ fun _ => rfl
    · exact hsame
  · exact hsame

theorem keeps_loses (h : Kept Entry.Loses r.entries r'.entries) :
    Kept Entry.Keeps r.entries r'.entries := by
  intro j x hx
  obtain ⟨y, hy, hl⟩ := h j x hx
  exact ⟨y, hy, (Entry.Keeps.refl x).loses hl⟩

theorem keeps_install {attempt : StartAttempt} {entry : Entry} (hi : r.servers.Sound)
    (ha : r.attempts[a]? = some attempt) (ho : attempt.outcome = none)
    (he : r.entries[attempt.entry]? = some entry) (id : String) :
    Kept Entry.Keeps r.entries
      (r.install a attempt id (entry.slot.generation == attempt.generation) false).entries := by
  obtain ⟨e, g, _⟩ := attempt
  cases ho
  by_cases hg : entry.slot.generation = g
  · simp only [install, hg, beq_self_eq_true, if_true, Bool.false_eq_true, if_false]
    intro j x hx
    simp only [endAttempt, modifyEntry, List.getElem?_modify, hx]
    refine ⟨_, rfl, ?_⟩
    split
    · rename_i heq
      subst heq
      cases he.symm.trans hx
      intro h hst
      cases hst.symm.trans (hi.starting_of_current ha (slot_of_entry he) hg)
    · exact .refl x
  · simp only [install, beq_eq_false_iff_ne.2 hg, Bool.false_eq_true, if_false]
    rw [dispose_last]
    exact .refl .refl _

theorem keeps_failAttempt (r : Registry) (a : Nat) (attempt : StartAttempt) (current : Bool)
    (error : ServerError) :
    Kept Entry.Keeps r.entries (r.failAttempt a attempt current error).entries := by
  cases current with
  | true => exact keeps_loses (loses_modify _ fun _ => rfl)
  | false => exact .refl .refl _

theorem keeps_spawned (hi : r.servers.Sound) (a : Nat) (outcome : SpawnOutcome) :
    Kept Entry.Keeps r.entries (r.spawned a outcome).entries := by
  unfold spawned
  split
  · exact .refl .refl _
  rename_i attempt ha
  split
  · rename_i entry he ho
    cases outcome with
    | running exited =>
      have hk := keeps_install hi ha ho he entry.config.id
      cases exited with
      | false => exact hk
      | true =>
        simp only [install_exited]
        split
        · rename_i hc
          rw [hc] at hk
          refine hk.trans ?_ (entries_exit _ _)
          intro x y z hxy hyz
          exact hxy.loses hyz
        · rename_i hc
          rw [eq_false_of_ne_true hc] at hk
          exact hk
    | _ => exact keeps_failAttempt r a attempt _ _
  · exact .refl .refl _

theorem keeps_step {action : RegistryAction} (hi : r.servers.Sound)
    (hd : ∀ t i, action ≠ .deliver t i) (hs : ∀ t i accepted, action ≠ .sent t i accepted) :
    Kept Entry.Keeps r.entries (r.step action).entries := by
  cases action with
  | call call => exact .refl .refl _
  | resume t =>
    obtain h | h := entries_resume r t
    · rw [step, h]
      exact .refl .refl _
    · rw [step, h]
      exact .map (fun x => (Entry.Keeps.refl x).loses (.inr rfl)) _
  | read t result =>
    rw [step, entries_read]
    exact .refl .refl _
  | deliver t i => exact absurd rfl (hd t i)
  | sent t i accepted => exact absurd rfl (hs t i accepted)
  | spawned a outcome => exact keeps_spawned hi a outcome
  | closed t h =>
    rw [step, entries_close]
    exact .refl .refl _
  | exit h => exact keeps_loses (entries_exit r h)
  | notify h method params =>
    obtain ⟨hub, heq⟩ := receive_eq r h method params
    rw [step, heq]
    exact .refl .refl _
  | hub call => exact .refl .refl _

def HasOpen (r : Registry) (h : Nat) (uri : String) : Prop :=
  RegistryEvent.hasOpen r.traffic.2 h uri = true

theorem Serves.lt (hs : r.Serves e h) : h < r.handles.length := by
  obtain ⟨handle, hh, _⟩ := hs
  exact (List.getElem?_eq_some_iff.1 hh).1

theorem Serves.unique {e' : Nat} (hs : r.Serves e h) (hs' : r.Serves e' h) : e = e' := by
  obtain ⟨handle, hh, rfl, _⟩ := hs
  obtain ⟨handle', hh', rfl, _⟩ := hs'
  cases hh.symm.trans hh'
  rfl

theorem Installed.serves (hi : r.Installed e h) (hr : r.Reachable) : r.Serves e h := by
  obtain ⟨g, hh⟩ := hi.handle hr
  exact ⟨_, hh, rfl, rfl⟩

theorem IsSending.fits {notice : Notice} (hs : r.IsSending t h notice) (hr : r.Reachable) :
    ∃ call errand ds e, r.tasks[t]? = some ⟨call, .routing errand ds⟩ ∧ errand.Sends notice ∧
      r.Serves e h := by
  obtain ⟨call, errand, ds, d, ht, hd, hst⟩ := hs
  obtain ⟨_, hds, _⟩ := hr.taskFits t _ ht
  have hf := hds d hd
  rw [hst] at hf
  exact ⟨call, errand, ds, d.entry, ht, hf⟩

theorem HasOpen.lt (ho : r.HasOpen h uri) (hr : r.Reachable) : h < r.handles.length := by
  unfold HasOpen RegistryEvent.hasOpen at ho
  cases hf : r.traffic.2.findSome? (RegistryEvent.opens? h uri) with
  | none => simp [hf] at ho
  | some b =>
    obtain rfl : b = true := by simpa [hf] using ho
    obtain ⟨event, hm, hopens⟩ := List.exists_of_findSome?_eq_some hf
    obtain ⟨t, language, version, text, rfl⟩ := RegistryEvent.opens?_eq_some_true hopens
    obtain ⟨_, _, e, _, _, _, hs⟩ := hr.acceptedFits t h _ (mem_traffic.1 hm)
    exact hs.lt

theorem hasOpen_lt_step (hr : r.Reachable) (action : RegistryAction)
    (ho : (r.step action).HasOpen h uri) : h < r.handles.length := by
  have hsame (heq : (r.step action).traffic.2 = r.traffic.2) : h < r.handles.length := by
    unfold HasOpen at ho
    rw [heq] at ho
    exact HasOpen.lt ho hr
  obtain heq | ⟨t, i, notice, hs, heq⟩ | ⟨i, method, params, rfl⟩ | ⟨call, rfl⟩ :=
    traffic_step r action
  · exact hsame (by rw [heq])
  · unfold HasOpen at ho
    rw [heq] at ho
    obtain ho | ho := RegistryEvent.hasOpen_cons ho
    · exact HasOpen.lt ho hr
    · obtain ⟨_, _, _, _, hevent⟩ := RegistryEvent.opens?_eq_some_true ho
      cases hevent
      obtain ⟨_, _, _, _, _, _, hserves⟩ := hs.fits hr
      exact hserves.lt
  · obtain ⟨hub, heq⟩ := receive_eq r i method params
    exact hsame (by rw [step, heq]; rfl)
  · exact hsame rfl

theorem acceptances_step {action : RegistryAction}
    (hs : ∀ t i accepted, action ≠ .sent t i accepted) :
    (r.step action).traffic.2 = r.traffic.2 := by
  cases action with
  | call call => rfl
  | resume t => exact congrArg Prod.snd (traffic_resume r t)
  | read t result => exact congrArg Prod.snd (traffic_read r t result)
  | deliver t i => exact congrArg Prod.snd (traffic_deliver r t i)
  | sent t i accepted => exact absurd rfl (hs t i accepted)
  | spawned a outcome => exact congrArg Prod.snd (traffic_spawned r a outcome)
  | closed t h => exact congrArg Prod.snd (traffic_close r t h)
  | exit h => exact congrArg Prod.snd (traffic_exit r h)
  | notify h method params =>
    obtain ⟨hub, heq⟩ := receive_eq r h method params
    rw [step, heq]
    rfl
  | hub call => rfl

theorem turn?_not_waiting {errand : Errand} {stage : TurnStage}
    (he : errand.turn? = some (uri, stage)) : stage.isWaiting = false := by
  cases errand <;> cases he <;> rfl

theorem routing_unique {call call' : RegistryCall} {errand errand' : Errand}
    {ds ds' : List Delivery} {stage stage' : TurnStage} (hr : r.Reachable)
    (ht : r.tasks[t]? = some ⟨call, .routing errand ds⟩)
    (hu : r.tasks[u]? = some ⟨call', .routing errand' ds'⟩)
    (he : errand.turn? = some (uri, stage)) (he' : errand'.turn? = some (uri, stage')) : t = u := by
  have hs := turns_of_task ht
  have hs' := turns_of_task hu
  simp only [TaskStage.turn?, he] at hs
  simp only [TaskStage.turn?, he'] at hs'
  exact hr.turnsFit.exclusive hs (turn?_not_waiting he) hs' (turn?_not_waiting he')

theorem delivery_unique {call : RegistryCall} {errand : Errand} {ds : List Delivery} {j : Nat}
    {d d' : Delivery} (hr : r.Reachable) (ht : r.tasks[t]? = some ⟨call, .routing errand ds⟩)
    (hd : ds[i]? = some d) (hd' : ds[j]? = some d') (he : d.entry = d'.entry) : i = j := by
  have hn := (hr.inOrder t call errand ds ht).nodup List.nodup_range
  have hl : i < (ds.map (·.entry)).length := by
    simpa using (List.getElem?_eq_some_iff.1 hd).1
  refine (List.getElem?_inj hl hn).1 ?_
  rw [List.getElem?_map, List.getElem?_map, hd, hd', Option.map_some, Option.map_some, he]

/-- How a delivery of an errand on a document stands to the servers of its entry. No one else tells
them of the document meanwhile: the one that the delivery waits for has it not open, nor has one
that has taken the place of the server it deals with; and what is sent as an opening in the place of
a change is the first opening. -/
def DeliveryOpens (r : Registry) (errand : Errand) (uri : String) (e : Nat) :
    DeliveryStage → Prop
  | .starting a => ∀ h, r.Installed e h ∨ r.outcome? a = some (.ok h) → ¬ r.HasOpen h uri
  | .sending h notice => (∀ i, r.Installed e i → i ≠ h → ¬ r.HasOpen i uri) ∧
    (notice.isOpening = true → (r.Installed e h → r.Opened e uri) ∧
      (errand.isChange = true → ¬ r.HasOpen h uri))
  | _ => True

theorem installed_iff_state :
    r.Installed e h ↔ (r.servers.slots[e]?).map (·.state) = some (.started h) := by
  simp [Installed, servers]

theorem Installed.of_servers (hi : r'.Installed e h) (hs : r'.servers = r.servers) :
    r.Installed e h := by
  rwa [installed_iff_state, hs, ← installed_iff_state] at hi

theorem Installed.earlier (hi : r'.Installed e h) (ha : Servers.Arrives r.servers r'.servers)
    (hl : h < r.handles.length) : r.Installed e h :=
  installed_iff_state.2
    ((ha.slots (installed_iff_state.1 hi)).resolve_right (Nat.not_le_of_lt hl))

/-- What a delivery is told of the servers of its entry stays true if nothing is done about its
document at them. -/
theorem DeliveryOpens.keep {errand : Errand} {stage : DeliveryStage}
    (hd : r.DeliveryOpens errand uri e stage) (hr : r.Reachable)
    (hf : r.DeliveryFits errand e stage) (ha : Servers.Arrives r.servers r'.servers)
    (hk : ∀ h, r.Installed e h → r'.Installed e h → r.Opened e uri → r'.Opened e uri)
    (ho : ∀ h, r'.HasOpen h uri → r.Serves e h → r.HasOpen h uri)
    (hl : ∀ h, r'.HasOpen h uri → h < r.handles.length) :
    r'.DeliveryOpens errand uri e stage := by
  have hclosed {h : Nat} (hi : r'.Installed e h)
      (hn : r.Installed e h → ¬ r.HasOpen h uri) : ¬ r'.HasOpen h uri := by
    intro hopen
    have hi' := hi.earlier ha (hl h hopen)
    exact hn hi' (ho h hopen (hi'.serves hr))
  cases stage with
  | begun => trivial
  | done outcome => trivial
  | starting a =>
    rintro h (hi | hout)
    · exact hclosed hi fun hi' => hd h (.inl hi')
    · intro hopen
      have hout' := (ha.attempts hout).resolve_right (Nat.not_le_of_lt (hl h hopen))
      obtain ⟨attempt, hattempt, rfl⟩ := hf
      obtain ⟨attempt', hattempt', hok⟩ := Option.bind_eq_some_iff.1 hout'
      cases hattempt.symm.trans hattempt'
      exact hd h (.inr hout') (ho h hopen (hr.sound.outcome hattempt hok))
  | sending h notice =>
    obtain ⟨hothers, hopening⟩ := hd
    refine ⟨fun i hi hne => hclosed hi fun hi' => hothers i hi' hne, fun hn => ⟨fun hi => ?_, ?_⟩⟩
    · have hi' := hi.earlier ha hf.2.lt
      exact hk h hi' hi ((hopening hn).1 hi')
    · exact fun hc hopen => (hopening hn).2 hc (ho h hopen hf.2)

/-- How the documents on record, the openings under way and those that servers have accepted fit
together. -/
structure OpeningsFit (r : Registry) : Prop where
  delivery {t : Nat} {call : RegistryCall} {errand : Errand} {ds : List Delivery} {d : Delivery}
    {uri : String} {stage : TurnStage} : r.tasks[t]? = some ⟨call, .routing errand ds⟩ → d ∈ ds →
      errand.turn? = some (uri, stage) → r.DeliveryOpens errand uri d.entry d.stage
  /-- What a server has open is on record, unless it is just being sent the closing. -/
  installed {e h : Nat} {uri : String} : r.Installed e h → r.HasOpen h uri →
    r.Opened e uri ∨ ∃ t, r.IsSending t h (.didClose uri)

theorem IsSending.closing (hs : r.IsSending t h (.didClose uri)) (hr : r.Reachable) :
    ∃ call ds, r.tasks[t]? = some ⟨call, .routing (.closing uri) ds⟩ := by
  obtain ⟨call, errand, ds, e, ht, hsends, _⟩ := hs.fits hr
  cases errand with
  | closing uri' =>
    cases hsends
    exact ⟨call, ds, ht⟩
  | changing => obtain h | h := hsends <;> cases h
  | start => exact hsends.elim
  | _ => cases hsends

theorem OpeningsFit.quiet {action : RegistryAction} (hx : r.OpeningsFit) (hr : r.Reachable)
    (hd : ∀ t i, action ≠ .deliver t i) (hs : ∀ t i accepted, action ≠ .sent t i accepted) :
    (r.step action).OpeningsFit := by
  have hkeeps := keeps_step hr.sound hd hs
  have ha := (servers_steps r action).arrives
  have hopen (h : Nat) (uri : String) (ho : (r.step action).HasOpen h uri) : r.HasOpen h uri := by
    unfold HasOpen at ho
    rwa [acceptances_step hs] at ho
  constructor
  case delivery =>
    intro t call errand ds d uri stage ht hm he
    obtain hnew | hold := afresh_step (hd t) (hs t)
    · obtain ⟨es, _, rfl⟩ := hnew call errand ds ht
      obtain ⟨e, _, rfl⟩ := List.mem_map.1 hm
      trivial
    · rw [hold] at ht
      obtain ⟨_, hfits, _⟩ := hr.taskFits t _ ht
      exact (hx.delivery ht hm he).keep hr (hfits d hm) ha
        (fun h hi hi' hop => hop.kept hkeeps hi hi') (fun h ho _ => hopen h uri ho)
        fun h => hasOpen_lt_step hr action
  case installed =>
    intro e h uri hi ho
    have ho' := hopen h uri ho
    have hi' := hi.earlier ha (ho'.lt hr)
    obtain hop | ⟨t, call, errand, ds, d, ht, hm, hst⟩ := hx.installed hi' ho'
    · exact .inl (hop.kept hkeeps hi' hi)
    · exact .inr ⟨t, call, errand, ds, d, routing_quiet ht (hd t) (hs t), hm, hst⟩

end Registry

end Switchyard
