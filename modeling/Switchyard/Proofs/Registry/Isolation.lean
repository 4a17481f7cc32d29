import Switchyard.Proofs.Registry.Alone

namespace Switchyard

namespace RegistryAction

def isCall : RegistryAction → Bool
  | .call _ => true
  | _ => false

end RegistryAction

/-- How a server behaves, given what has happened to it so far. -/
structure Behaviour where
  outcome : List RegistryAction → SpawnOutcome
  takes : List RegistryAction → Bool
  /-- The handle that exits before anything else happens, if one does. -/
  exits : List RegistryAction → Option Nat

namespace Behaviour

variable {B : Behaviour} {files : Nat → Except FileError String} {s : Registry} {t : Nat}
variable {past xs ys : List RegistryAction} {x : RegistryAction}

def allows (B : Behaviour) (past : List RegistryAction) (action : RegistryAction) : Bool :=
  match B.exits past, action with
  | some h, .exit i => i == h
  | some _, _ => false
  | none, .exit _ => false
  | none, .spawned _ outcome => outcome == B.outcome past
  | none, .sent _ _ accepted => accepted == B.takes past
  | none, _ => true

/-- A server that always starts, takes everything and never exits. -/
def steady : Behaviour := ⟨fun _ => .running false, fun _ => true, fun _ => none⟩

def nextOf (B : Behaviour) (files : Nat → Except FileError String) (s : Registry)
    (past : List RegistryAction) (t : Nat) : TaskStage → Option RegistryAction
  | .begun => some (.resume t)
  | .reading _ _ _ => some (.read t (files t))
  | .routing _ (d :: _) =>
    match d.stage with
    | .begun => some (.deliver t 0)
    | .starting a =>
      if (s.outcome? a).isSome then some (.deliver t 0) else some (.spawned a (B.outcome past))
    | .sending _ _ => some (.sent t 0 (B.takes past))
    | .done _ => none
  | .closing (h :: _) => some (.closed t h)
  | _ => none

/-- The one thing that can happen next where there is one server only, until the next call. -/
def next? (B : Behaviour) (files : Nat → Except FileError String) (s : Registry)
    (past : List RegistryAction) : Option RegistryAction :=
  match B.exits past with
  | some h => some (.exit h)
  | none =>
    match s.tasks.findIdx? (!·.stage.isDone) with
    | some t => (s.tasks[t]?).bind fun task => B.nextOf files s past t task.stage
    | none => none

theorem next?_of_task {task : Task} (ho : s.OneAtATime) (he : B.exits past = none)
    (ht : s.tasks[t]? = some task) (hn : task.stage.isDone = false) :
    B.next? files s past = B.nextOf files s past t task.stage := by
  have hi : s.tasks.findIdx? (!·.stage.isDone) = some t := by
    obtain ⟨hl, rfl⟩ := List.getElem?_eq_some_iff.1 ht
    refine List.findIdx?_eq_some_iff_getElem.2 ⟨hl, by rw [hn]; rfl, fun j hj hu => ?_⟩
    have hjl := Nat.lt_trans hj hl
    have heq := ho j t ⟨_, List.getElem?_eq_getElem hjl, by simpa using hu⟩ ⟨_, ht, hn⟩
    exact absurd heq (Nat.ne_of_lt hj)
  simp only [next?, he, hi, ht, Option.bind_some]

theorem exits_of_allows (ha : B.allows past x = true) (hx : ∀ h, x ≠ .exit h) :
    B.exits past = none := by
  cases he : B.exits past with
  | none => rfl
  | some h =>
    cases x <;> simp_all [allows]

/-- A list of actions each of which is the only one that can happen next. -/
inductive Plays (B : Behaviour) (files : Nat → Except FileError String) :
    Registry → List RegistryAction → List RegistryAction → Prop
  | nil {s : Registry} {past : List RegistryAction} : Plays B files s past []
  | cons {s : Registry} {past xs : List RegistryAction} {x : RegistryAction}
      (hx : B.next? files s past = some x) (hxs : Plays B files (s.step x) (past ++ [x]) xs) :
      Plays B files s past (x :: xs)

theorem Plays.unique (h : B.Plays files s past xs) (h' : B.Plays files s past ys)
    (he : B.next? files (s.run xs) (past ++ xs) = none)
    (he' : B.next? files (s.run ys) (past ++ ys) = none) : xs = ys := by
  induction h generalizing ys with
  | nil =>
    cases h' with
    | nil => rfl
    | cons hx _ =>
      rw [List.append_nil] at he
      cases he.symm.trans hx
  | cons hx _ ih =>
    cases h' with
    | nil =>
      rw [List.append_nil] at he'
      cases he'.symm.trans hx
    | cons hy hys =>
      cases hx.symm.trans hy
      rw [List.append_cons] at he he'
      rw [ih hys he he']

end Behaviour

theorem eq_singleton {α : Type} {l : List α} {i : Nat} {x : α} (hl : l.length ≤ 1)
    (hx : l[i]? = some x) : i = 0 ∧ l = [x] := by
  obtain ⟨hi, rfl⟩ := List.getElem?_eq_some_iff.1 hx
  have hone : l.length = 1 := by omega
  obtain ⟨y, rfl⟩ := List.length_eq_one_iff.1 hone
  have hzero : i = 0 := by simpa using hi
  subst hzero
  exact ⟨rfl, rfl⟩

namespace Registry

/-- What an action that concerns an entry is about, and what it is where there is no other. -/
inductive Concerns (r : Registry) (e : Nat) : RegistryAction → RegistryAction → Prop
  | call (call : RegistryCall) : Concerns r e (.call call) (.call call)
  | resume {t : Nat} {call : RegistryCall} (ht : r.tasks[t]? = some ⟨call, .begun⟩) :
      Concerns r e (.resume t) (.resume t)
  | read {t : Nat} {call : RegistryCall} {event : DocumentEvent} {path : Path} {uri : String}
      (result : Except FileError String)
      (ht : r.tasks[t]? = some ⟨call, .reading event path uri⟩) :
      Concerns r e (.read t result) (.read t result)
  | deliver {t d : Nat} {call : RegistryCall} {errand : Errand} {ds : List Delivery} {x : Delivery}
      (ht : r.tasks[t]? = some ⟨call, .routing errand ds⟩) (hd : ds[d]? = some x)
      (he : x.entry = e) (hg : r.canGoOn x.stage = true) :
      Concerns r e (.deliver t d) (.deliver t (ds.countPBefore (·.entry == e) d))
  | sent {t d h : Nat} {call : RegistryCall} {errand : Errand} {ds : List Delivery}
      {notice : Notice} (accepted : Bool) (ht : r.tasks[t]? = some ⟨call, .routing errand ds⟩)
      (hd : ds[d]? = some ⟨e, .sending h notice⟩) :
      Concerns r e (.sent t d accepted) (.sent t (ds.countPBefore (·.entry == e) d) accepted)
  | spawned {a g : Nat} (outcome : SpawnOutcome) (ha : r.attempts[a]? = some ⟨e, g, none⟩) :
      Concerns r e (.spawned a outcome) (.spawned ((r.numbering e).attempt a) outcome)
  | closed {t h : Nat} {call : RegistryCall} {hs : List Nat}
      (ht : r.tasks[t]? = some ⟨call, .closing hs⟩) (hm : h ∈ hs)
      (ho : (r.numbering e).owns h = true) :
      Concerns r e (.closed t h) (.closed t ((r.numbering e).handle h))
  | exit {h : Nat} (ho : (r.numbering e).owns h = true) :
      Concerns r e (.exit h) (.exit ((r.numbering e).handle h))

variable {r : Registry} {e t d h a : Nat} {x : RegistryAction}

theorem concerns_deliver (hx : r.aloneAction? e (.deliver t d) = some x) :
    r.Concerns e (.deliver t d) x := by
  simp only [aloneAction?] at hx
  split at hx
  · rename_i ht
    split at hx
    · rename_i hd
      obtain ⟨hcond, hx⟩ := Option.ite_none_right_eq_some.1 hx
      cases hx
      obtain ⟨he, hg⟩ := Bool.and_eq_true_iff.1 hcond
      exact .deliver ht hd (beq_iff_eq.1 he) hg
    · cases hx
  · cases hx

theorem concerns_sent {accepted : Bool} (hx : r.aloneAction? e (.sent t d accepted) = some x) :
    r.Concerns e (.sent t d accepted) x := by
  simp only [aloneAction?] at hx
  split at hx
  · rename_i ht
    split at hx
    · rename_i hd
      obtain ⟨he, hx⟩ := Option.ite_none_right_eq_some.1 hx
      cases hx
      cases beq_iff_eq.1 he
      exact .sent accepted ht hd
    · cases hx
  · cases hx

theorem concerns_spawned {outcome : SpawnOutcome}
    (hx : r.aloneAction? e (.spawned a outcome) = some x) :
    r.Concerns e (.spawned a outcome) x := by
  simp only [aloneAction?] at hx
  split at hx
  · rename_i ha
    obtain ⟨he, hx⟩ := Option.ite_none_right_eq_some.1 hx
    cases hx
    cases beq_iff_eq.1 he
    exact .spawned outcome ha
  · cases hx

theorem concerns_closed (hx : r.aloneAction? e (.closed t h) = some x) :
    r.Concerns e (.closed t h) x := by
  simp only [aloneAction?] at hx
  split at hx
  · rename_i ht
    obtain ⟨hcond, hx⟩ := Option.ite_none_right_eq_some.1 hx
    cases hx
    obtain ⟨hm, ho⟩ := Bool.and_eq_true_iff.1 hcond
    exact .closed ht (List.contains_iff_mem.1 hm) ho
  · cases hx

theorem concerns_of_alone {action : RegistryAction} (hx : r.aloneAction? e action = some x) :
    r.Concerns e action x := by
  cases action with
  | call call =>
    cases hx
    exact .call call
  | resume t =>
    simp only [aloneAction?] at hx
    split at hx <;> cases hx
    exact .resume ‹_›
  | read t result =>
    simp only [aloneAction?] at hx
    split at hx <;> cases hx
    exact .read result ‹_›
  | deliver t d => exact concerns_deliver hx
  | sent t d accepted => exact concerns_sent hx
  | spawned a outcome => exact concerns_spawned hx
  | closed t h => exact concerns_closed hx
  | exit h =>
    obtain ⟨ho, hx⟩ := Option.ite_none_right_eq_some.1 hx
    cases hx
    exact .exit ho
  | notify h method params => cases hx
  | hub call => cases hx

end Registry

namespace Numbering

variable {B : Behaviour} {files : Nat → Except FileError String} {N : Numbering}
variable {r s : Registry} {past : List RegistryAction} {t : Nat}

namespace Alone

theorem length_entries (h : N.Alone r s) : s.entries.length ≤ 1 := by
  rw [h.entries]
  cases r.entries[N.entry]? <;> simp

theorem singleton {call : RegistryCall} {errand : Errand} {ds : List Delivery} {d : Nat}
    {x : Delivery} (h : N.Alone r s) (hs : s.Reachable)
    (ht : s.tasks[t]? = some ⟨call, .routing errand ds⟩) (hd : ds[d]? = some x) :
    d = 0 ∧ ds = [x] := by
  have hl := (hs.inOrder t call errand ds ht).length_le
  rw [List.length_map, List.length_range] at hl
  exact eq_singleton (Nat.le_trans hl h.length_entries) hd

theorem task (h : N.Alone r s) {task : Task} (ht : r.tasks[t]? = some task) :
    ∃ task', s.tasks[t]? = some task' ∧ task'.call = task.call ∧
      N.Matches task.stage task'.stage := by
  obtain ⟨s₀, rfl, hm⟩ := h
  exact hm.of_some ht

theorem routing {call : RegistryCall} {errand : Errand} {ds : List Delivery} {d : Nat}
    {x : Delivery} (h : N.Alone r s) (hs : s.Reachable)
    (ht : r.tasks[t]? = some ⟨call, .routing errand ds⟩) (hd : ds[d]? = some x)
    (he : x.entry = N.entry) (hn : (N.ofStage x.stage).isDone = false) :
    ds.countPBefore (·.entry == N.entry) d = 0 ∧
      s.tasks[t]? = some ⟨call, .routing errand [N.ofDelivery x]⟩ := by
  have ht' : s.tasks[t]? = some ⟨call, .routing errand (N.deliveries ds)⟩ := by
    obtain ⟨s₀, rfl, hm⟩ := h
    exact hm.routing ht hd he hn
  obtain ⟨hz, hl⟩ := h.singleton hs ht' (getElem?_deliveries hd he)
  exact ⟨hz, hl ▸ ht'⟩

theorem attempt (h : N.Alone r s) (hf : N.Fits r) {a : Nat} {attempt : StartAttempt}
    (ha : r.attempts[a]? = some attempt) (he : attempt.entry = N.entry) :
    s.attempts[N.attempt a]? = some (N.ofAttempt attempt) := by
  obtain ⟨s₀, rfl, _⟩ := h
  exact hf.attempt_only ha he

section Next

variable (h : N.Alone r s) (hs : s.Reachable) (ho : r.OneAtATime) (he : B.exits past = none)
variable {call : RegistryCall} {errand : Errand} {ds : List Delivery} {d : Nat}

include h hs ho he

theorem next_deliver {x : Delivery} (hr : r.Reachable) (hf : N.Fits r)
    (ht : r.tasks[t]? = some ⟨call, .routing errand ds⟩) (hd : ds[d]? = some x)
    (hx : x.entry = N.entry) (hg : r.canGoOn x.stage = true) :
    B.next? files s past = some (.deliver t (ds.countPBefore (·.entry == N.entry) d)) := by
  obtain ⟨_, hfit, _⟩ := hr.taskFits t _ ht
  have hy := hfit x (List.mem_of_getElem? hd)
  obtain ⟨e, stage⟩ := x
  cases stage with
  | begun =>
    obtain ⟨hz, ht'⟩ := h.routing hs ht hd hx rfl
    rw [Behaviour.next?_of_task (h.oneAtATime ho) he ht' rfl, hz]
    rfl
  | starting a =>
    obtain ⟨hz, ht'⟩ := h.routing hs ht hd hx rfl
    obtain ⟨attempt, ha, hae⟩ := hy
    have ha' := h.attempt hf ha (hae.trans hx)
    have hout : (s.outcome? (N.attempt a)).isSome = true := by
      simp only [Registry.canGoOn, Registry.outcome?, ha, Option.bind_some] at hg
      simpa [Registry.outcome?, ha', ofAttempt] using hg
    rw [Behaviour.next?_of_task (h.oneAtATime ho) he ht' rfl, hz]
    simp [Behaviour.nextOf, ofDelivery, ofStage, hout]
  | _ => cases hg

theorem next_spawned {a g : Nat} {outcome : SpawnOutcome} (hf : N.Fits r)
    (ha : r.attempts[a]? = some ⟨N.entry, g, none⟩) (ho' : outcome = B.outcome past) :
    B.next? files s past = some (.spawned ((r.numbering N.entry).attempt a) outcome) := by
  have hl := (List.getElem?_eq_some_iff.1 ha).1
  have ha' := h.attempt hf ha rfl
  have hnum : (r.numbering N.entry).attempt a = N.attempt a :=
    (hf.attempt (Nat.le_of_lt hl)).symm
  obtain ⟨u, i, call, errand, ds, e', ht', hd'⟩ := hs.awaited ha' rfl
  obtain ⟨rfl, rfl⟩ := h.singleton hs ht' hd'
  have hnone : (s.outcome? (N.attempt a)).isSome = false := by
    simp [Registry.outcome?, ha', ofAttempt]
  rw [Behaviour.next?_of_task (h.oneAtATime ho) he ht' rfl, hnum, ho']
  simp [Behaviour.nextOf, hnone]

theorem next_closed {handles : List Nat} {i : Nat} (hf : N.Fits r)
    (ht : r.tasks[t]? = some ⟨call, .closing handles⟩) (hm : i ∈ handles)
    (hown : (r.numbering N.entry).owns i = true) :
    B.next? files s past = some (.closed t ((r.numbering N.entry).handle i)) := by
  obtain ⟨handle, hh, hent⟩ := (Option.any_eq_true _ _).1 hown
  have hl := (List.getElem?_eq_some_iff.1 hh).1
  have hnum : (r.numbering N.entry).handle i = N.handle i :=
    (hf.handle (Nat.le_of_lt hl)).symm
  have hmem : N.handle i ∈ N.handles handles :=
    List.mem_map.2 ⟨i, List.mem_filter.2 ⟨hm, (hf.owns hh).trans hent⟩, rfl⟩
  have ht' : s.tasks[t]? = some ⟨call, .closing (N.handles handles)⟩ := by
    obtain ⟨s₀, rfl, htasks⟩ := h
    exact htasks.closing ht (List.ne_nil_of_mem hmem)
  obtain ⟨j, hj⟩ := List.mem_iff_getElem?.1 hmem
  obtain ⟨_, hone⟩ := eq_singleton (Nat.le_trans (hs.length_closing ht') h.length_entries) hj
  rw [hone] at ht'
  rw [Behaviour.next?_of_task (h.oneAtATime ho) he ht' rfl, hnum]
  rfl

theorem next_sent {i : Nat} {notice : Notice} {accepted : Bool}
    (ht : r.tasks[t]? = some ⟨call, .routing errand ds⟩)
    (hd : ds[d]? = some ⟨N.entry, .sending i notice⟩) (ha : accepted = B.takes past) :
    B.next? files s past = some (.sent t (ds.countPBefore (·.entry == N.entry) d) accepted) := by
  obtain ⟨hz, ht'⟩ := h.routing hs ht hd rfl rfl
  rw [Behaviour.next?_of_task (h.oneAtATime ho) he ht' rfl, hz, ha]
  rfl

end Next

theorem next (h : N.Alone r s) (hr : r.Reachable) (hs : s.Reachable) (hf : N.Fits r)
    (ho : r.OneAtATime) {action x : RegistryAction} (hc : action.isCall = false)
    (hread : ∀ t result, action = .read t result → result = files t)
    (hx : r.aloneAction? N.entry action = some x) (ha : B.allows past x = true) :
    B.next? files s past = some x := by
  cases he : B.exits past with
  | some i =>
    have hexit : x = .exit i := by
      cases x <;> simp_all [Behaviour.allows]
    rw [hexit, Behaviour.next?, he]
  | none =>
    cases Registry.concerns_of_alone hx with
    | call call => cases hc
    | resume ht =>
      obtain ⟨⟨call', stage'⟩, ht', _, hm⟩ := h.task ht
      cases hm
      rw [Behaviour.next?_of_task (h.oneAtATime ho) he ht' rfl]
      rfl
    | read result ht =>
      obtain ⟨⟨call', stage'⟩, ht', _, hm⟩ := h.task ht
      cases hm
      rw [Behaviour.next?_of_task (h.oneAtATime ho) he ht' rfl, hread _ result rfl]
      rfl
    | deliver ht hd hent hg => exact h.next_deliver hs ho he hr hf ht hd hent hg
    | sent accepted ht hd =>
      exact h.next_sent hs ho he ht hd (by simpa [Behaviour.allows, he] using ha)
    | spawned outcome hattempt =>
      exact h.next_spawned hs ho he hf hattempt (by simpa [Behaviour.allows, he] using ha)
    | closed ht hm hown => exact h.next_closed hs ho he hf ht hm hown
    | exit hown => simp [Behaviour.allows, he] at ha

end Alone

end Numbering

structure Operation where
  call : RegistryCall
  actions : List RegistryAction

namespace Operation

def all (o : Operation) : List RegistryAction := .call o.call :: o.actions

end Operation

/-- What a registry has to do with one server: what it stands at, how its starts came out, its
handles, and what happened to it and was accepted by it, the last event first. Start attempts and
handles have the numbers that they have among those of the server. -/
structure Share where
  entry : Option Entry
  attempts : List StartAttempt
  handles : List Handle
  history : List RegistryEvent

namespace Registry

variable {B : Behaviour} {files : Nat → Except FileError String} {r : Registry} {t e : Nat}
variable {past actions rest : List RegistryAction} {action : RegistryAction}

def share (r : Registry) (e : Nat) : Share where
  entry := (r.entries[e]?).map (r.numbering e).ofEntry
  attempts := (r.attempts.filter (·.entry == e)).map (r.numbering e).ofAttempt
  handles := (r.handles.filter (·.entry == e)).map ({ · with entry := 0 })
  history := r.history.filterMap (r.numbering e).event?

def idle (r : Registry) : Bool := r.tasks.all (·.stage.isDone)

/-- Operations come one after another: each has come to its end when the next one begins. -/
def oneByOne (r : Registry) : List Operation → Bool
  | [] => true
  | o :: rest =>
    o.actions.all (!·.isCall) && (r.run o.all).idle && (r.run o.all).oneByOne rest

def log (r : Registry) (e : Nat) : List RegistryAction → List RegistryAction
  | [] => []
  | action :: actions => (r.aloneAction? e action).toList ++ (r.step action).log e actions

def obeys (r : Registry) (e : Nat) (B : Behaviour) (past : List RegistryAction) :
    List RegistryAction → Bool
  | [] => (B.exits past).isNone
  | action :: actions =>
    (r.aloneAction? e action).all (B.allows past) &&
      (r.step action).obeys e B (past ++ (r.aloneAction? e action).toList) actions

theorem unfinished_step (hn : action.isCall = false) (hu : (r.step action).Unfinished t) :
    r.Unfinished t := by
  obtain ⟨task, ht, hd⟩ := hu
  cases hold : r.tasks[t]? with
  | none =>
    obtain ⟨call, rfl, _⟩ | ⟨u, _, h | ⟨stage, h⟩⟩ | ⟨_, h⟩ := tasks_step r action
    · cases hn
    · cases hold.symm.trans (h ▸ ht)
    · rw [h, List.getElem?_modify, hold] at ht
      cases ht
    · cases hold.symm.trans (h ▸ ht)
  | some old =>
    refine ⟨old, hold, ?_⟩
    cases hs : old.stage with
    | done result =>
      cases (done_step hold hs).symm.trans ht
      rw [hs] at hd
      cases hd
    | _ => rfl

theorem not_unfinished (hi : r.idle = true) : ¬ r.Unfinished t := by
  rintro ⟨task, ht, hd⟩
  have hdone := List.all_eq_true.1 hi task (List.mem_of_getElem? ht)
  cases hd.symm.trans hdone

theorem oneAtATime_call (hi : r.idle = true) (call : RegistryCall) :
    (r.step (.call call)).OneAtATime := by
  have hlast (t : Nat) (hu : (r.step (.call call)).Unfinished t) : t = r.tasks.length := by
    obtain ⟨task, ht, hd⟩ := hu
    obtain ⟨hl, _⟩ | ht := getElem?_concat_cases ht
    · exact hl
    · exact absurd ⟨task, ht, hd⟩ (not_unfinished hi)
  intro t u ht hu
  rw [hlast t ht, hlast u hu]

theorem OneAtATime.step (ho : r.OneAtATime) (hn : action.isCall = false) :
    (r.step action).OneAtATime :=
  fun t u ht hu => ho t u (unfinished_step hn ht) (unfinished_step hn hu)

theorem next?_of_idle (hi : r.idle = true) (he : B.exits past = none) :
    B.next? files r past = none := by
  have hf : r.tasks.findIdx? (!·.stage.isDone) = none := by
    apply List.findIdx?_eq_none_iff.2
    intro task hm
    rw [List.all_eq_true.1 hi task hm]
    rfl
  simp only [Behaviour.next?, he, hf]

/-- What comes later in a run goes as the server would have it, and so does what comes first if no
server is about to exit then. -/
theorem obeys_append (h : r.obeys e B past (actions ++ rest) = true) :
    (r.run actions).obeys e B (past ++ r.log e actions) rest = true ∧
      (B.exits (past ++ r.log e actions) = none → r.obeys e B past actions = true) := by
  induction actions generalizing r past with
  | nil =>
    rw [log, List.append_nil]
    exact ⟨h, fun he => by rw [obeys, he]; rfl⟩
  | cons action actions ih =>
    rw [List.cons_append, obeys, Bool.and_eq_true] at h
    obtain ⟨hrest, hfirst⟩ := ih h.2
    rw [List.append_assoc] at hrest hfirst
    refine ⟨hrest, fun he => ?_⟩
    rw [obeys, Bool.and_eq_true]
    exact ⟨h.1, hfirst he⟩

/-- No server is about to exit when operations begin or there are no more of them. -/
theorem exits_of_obeys {ops : List Operation}
    (h : r.obeys e B past (ops.flatMap Operation.all) = true) : B.exits past = none := by
  cases ops with
  | nil => simpa [obeys] using h
  | cons o ops =>
    have hcall : B.allows past (.call o.call) = true := by
      simp only [List.flatMap_cons, Operation.all, List.cons_append, obeys, aloneAction?,
        Bool.and_eq_true] at h
      simpa using h.1
    exact Behaviour.exits_of_allows hcall (by rintro _ ⟨⟩)

end Registry

namespace Numbering

variable {B : Behaviour} {files : Nat → Except FileError String} {N : Numbering}
variable {r s : Registry} {past actions : List RegistryAction} {e : Nat}

namespace Alone

/-- A run without calls is a run where there is no other server, and each action of that is the only
one that could happen. -/
theorem run (h : N.Alone r s) (hr : r.Reachable) (hs : s.Reachable) (ho : r.OneAtATime)
    (hn : actions.all (!·.isCall) = true) (hf : N.Fits (r.run actions))
    (hread : ∀ t result, .read t result ∈ actions → result = files t)
    (hb : r.obeys N.entry B past actions = true) :
    N.Alone (r.run actions) (s.run (r.log N.entry actions)) ∧
      B.Plays files s past (r.log N.entry actions) := by
  induction actions generalizing r s past with
  | nil => exact ⟨h, .nil⟩
  | cons action actions ih =>
    rw [List.all_cons, Bool.and_eq_true] at hn
    rw [Registry.obeys, Bool.and_eq_true] at hb
    have hc : action.isCall = false := by simpa using hn.1
    have hf' : N.Fits (r.step action) := hf.before (Registry.servers_run _ actions).before
    have hstep := h.step hr hs ho action hf'
    obtain ⟨hrun, hplays⟩ := ih hstep (hr.step action) (hs.run _) (ho.step hc) hn.2 hf
      (fun t result hm => hread t result (List.mem_cons_of_mem _ hm)) hb.2
    rw [Registry.log, Registry.run_append]
    refine ⟨hrun, ?_⟩
    cases hx : r.aloneAction? N.entry action with
    | none => simpa [hx, Registry.run] using hplays
    | some x =>
      rw [hx] at hplays hb
      have hfr := hf'.before (Registry.servers_steps r action).before
      refine .cons (h.next hr hs hfr ho hc (fun t result heq => ?_) hx hb.1) hplays
      exact hread t result (heq ▸ List.mem_cons_self)

theorem idle (h : N.Alone r s) (hi : r.idle = true) : s.idle = true := by
  apply List.all_eq_true.2
  intro task hm
  obtain ⟨t, ht⟩ := List.mem_iff_getElem?.1 hm
  by_contra hd
  exact Registry.not_unfinished hi (h.unfinished ⟨task, ht, eq_false_of_ne_true hd⟩)

/-- An operation is the same operation where there is no other server, and all that happens there is
the only thing that could. -/
theorem operation (h : N.Alone r s) (hr : r.Reachable) (hs : s.Reachable) (hi : r.idle = true)
    {o : Operation} (hn : o.actions.all (!·.isCall) = true) (hend : (r.run o.all).idle = true)
    (hf : N.Fits (r.run o.all)) (hread : ∀ t result, .read t result ∈ o.all → result = files t)
    (hb : r.obeys N.entry B past o.all = true)
    (he : B.exits (past ++ r.log N.entry o.all) = none) :
    ∃ xs, r.log N.entry o.all = .call o.call :: xs ∧
      N.Alone (r.run o.all) (s.run (.call o.call :: xs)) ∧
      B.Plays files (s.step (.call o.call)) (past ++ [.call o.call]) xs ∧
      B.next? files ((s.step (.call o.call)).run xs) (past ++ [.call o.call] ++ xs) = none := by
  have hf' : N.Fits (r.step (.call o.call)) := hf.before (Registry.servers_run _ o.actions).before
  have ho : r.OneAtATime := fun t u ht => absurd ht (Registry.not_unfinished hi)
  have hstep : N.Alone (r.step (.call o.call)) (s.step (.call o.call)) :=
    h.step hr hs ho (.call o.call) hf'
  have hb' := hb
  rw [Operation.all, Registry.obeys, Bool.and_eq_true] at hb'
  obtain ⟨hrun, hplays⟩ := hstep.run (hr.step _) (hs.step _) (Registry.oneAtATime_call hi o.call)
    hn hf (fun t result hm => hread t result (List.mem_cons_of_mem _ hm)) hb'.2
  refine ⟨_, rfl, hrun, hplays, Registry.next?_of_idle (hrun.idle hend) ?_⟩
  rw [List.append_assoc]
  exact he

/-- Two runs of the same calls in which a server behaves alike come to the same where there is no
other server. -/
theorem both {N' : Numbering} {r' : Registry} {ops ops' : List Operation}
    (hcalls : ops.map (·.call) = ops'.map (·.call)) (hs : s.Reachable)
    (h : N.Alone r s) (hr : r.Reachable) (hi : r.idle = true) (hone : r.oneByOne ops = true)
    (hf : N.Fits (r.run (ops.flatMap Operation.all)))
    (hread : ∀ t result, .read t result ∈ ops.flatMap Operation.all → result = files t)
    (hb : r.obeys N.entry B past (ops.flatMap Operation.all) = true)
    (h' : N'.Alone r' s) (hr' : r'.Reachable) (hi' : r'.idle = true)
    (hone' : r'.oneByOne ops' = true) (hf' : N'.Fits (r'.run (ops'.flatMap Operation.all)))
    (hread' : ∀ t result, .read t result ∈ ops'.flatMap Operation.all → result = files t)
    (hb' : r'.obeys N'.entry B past (ops'.flatMap Operation.all) = true) :
    ∃ s', N.Alone (r.run (ops.flatMap Operation.all)) s' ∧
      N'.Alone (r'.run (ops'.flatMap Operation.all)) s' := by
  induction ops generalizing ops' r r' s past with
  | nil =>
    cases ops' with
    | nil => exact ⟨s, h, h'⟩
    | cons o' ops' => cases hcalls
  | cons o ops ih =>
    cases ops' with
    | nil => cases hcalls
    | cons o' ops' =>
      obtain ⟨hcall, hcalls⟩ := List.cons.inj hcalls
      have hcall : o.call = o'.call := hcall
      simp only [List.flatMap_cons, Registry.run_append, List.mem_append] at hf hf' hread hread' ⊢
      simp only [Registry.oneByOne, Bool.and_eq_true] at hone hone'
      obtain ⟨⟨hn, hend⟩, hone⟩ := hone
      obtain ⟨⟨hn', hend'⟩, hone'⟩ := hone'
      obtain ⟨hrest, hfirst⟩ := Registry.obeys_append hb
      obtain ⟨hrest', hfirst'⟩ := Registry.obeys_append hb'
      have he := Registry.exits_of_obeys hrest
      have he' := Registry.exits_of_obeys hrest'
      obtain ⟨xs, hlog, halone, hplays, hnone⟩ := h.operation hr hs hi hn hend
        (hf.before (Registry.servers_run _ _).before) (fun t result hm => hread t result (.inl hm))
        (hfirst he) he
      obtain ⟨ys, hlog', halone', hplays', hnone'⟩ := h'.operation hr' hs hi' hn' hend'
        (hf'.before (Registry.servers_run _ _).before)
        (fun t result hm => hread' t result (.inl hm)) (hfirst' he') he'
      rw [← hcall] at hlog' halone' hplays' hnone'
      obtain rfl := hplays.unique hplays' hnone hnone'
      rw [hlog] at hrest
      rw [hlog'] at hrest'
      exact ih hcalls (hs.run _) halone (hr.run _) hend hone hf
        (fun t result hm => hread t result (.inr hm)) hrest halone' (hr'.run _) hend' hone' hf'
        (fun t result hm => hread' t result (.inr hm)) hrest'

theorem share (h : (r.numbering e).Alone r s) :
    r.share e = ⟨s.entries[0]?, s.attempts, s.handles, s.history⟩ := by
  obtain ⟨s₀, rfl, _⟩ := h
  have hentry : (r.numbering e).entry = e := rfl
  simp only [Registry.share, only, hentry]
  cases r.entries[e]? <;> rfl

end Alone

end Numbering

namespace Registry

variable {r : Registry} {e : Nat}

/-- A registry in which nothing has been started is still one without all entries but one. -/
theorem alone_ofConfigs (root : Path) (configs : List ServerConfig) (watch : Option WatchFilter)
    (commandExists : String → Bool) (handshakeMs : Nat) (N : Numbering) :
    N.Alone (ofConfigs root configs watch commandExists handshakeMs)
      (ofConfigs root ((distinct configs)[N.entry]?).toList watch commandExists handshakeMs) := by
  have hd (x : Option ServerConfig) : distinct x.toList = x.toList := by cases x <;> rfl
  refine ⟨ofConfigs root configs watch commandExists handshakeMs, ?_, fun t => ?_⟩
  · simp only [ofConfigs, Numbering.only, hd, List.getElem?_map]
    cases (distinct configs)[N.entry]? <;> rfl
  · simp [ofConfigs]

theorem Fresh.idle (hr : r.Fresh) : r.idle = true := by
  obtain ⟨root, configs, watch, commandExists, handshakeMs, rfl⟩ := hr
  rfl

theorem allows_absent {B : Behaviour} {past : List RegistryAction} {action x : RegistryAction}
    (hr : r.Reachable) (he : r.entries.length ≤ e) (hB : B.exits past = none)
    (hx : r.aloneAction? e action = some x) : B.allows past x = true := by
  have hslot {slot : Slot} (hs : r.servers.slots[e]? = some slot) : False := by
    have hl := (List.getElem?_eq_some_iff.1 hs).1
    simp only [servers, List.length_map] at hl
    omega
  have hdelivery {t : Nat} {call : RegistryCall} {errand : Errand} {ds : List Delivery}
      {d : Delivery} {i : Nat} (ht : r.tasks[t]? = some ⟨call, .routing errand ds⟩)
      (hd : ds[i]? = some d) (hde : d.entry = e) : False := by
    have hm : d.entry ∈ ds.map (·.entry) := List.mem_map_of_mem (List.mem_of_getElem? hd)
    have hl := List.mem_range.1 ((hr.inOrder t call errand ds ht).subset hm)
    omega
  have hown {h : Nat} (ho : (r.numbering e).owns h = true) : False := by
    obtain ⟨handle, hh, hent⟩ := (Option.any_eq_true _ _).1 ho
    obtain ⟨slot, hs, _⟩ := hr.sound.handle hh
    rw [beq_iff_eq.1 hent] at hs
    exact hslot hs
  cases concerns_of_alone hx with
  | call call => simp [Behaviour.allows, hB]
  | resume ht => simp [Behaviour.allows, hB]
  | read result ht => simp [Behaviour.allows, hB]
  | deliver ht hd hde hg => exact (hdelivery ht hd hde).elim
  | sent accepted ht hd => exact (hdelivery ht hd rfl).elim
  | spawned outcome ha =>
    obtain ⟨slot, hs, _⟩ := hr.sound.attempt ha
    exact (hslot hs).elim
  | closed ht hm ho => exact (hown ho).elim
  | exit ho => exact (hown ho).elim

theorem obeys_absent {B : Behaviour} {past actions : List RegistryAction} (hr : r.Reachable)
    (he : r.entries.length ≤ e) (hB : ∀ past, B.exits past = none) :
    r.obeys e B past actions = true := by
  induction actions generalizing r past with
  | nil => simp [obeys, hB]
  | cons action actions ih =>
    have hl := length_entries_before (servers_steps r action).before
    rw [obeys, Bool.and_eq_true]
    refine ⟨?_, ih (hr.step action) (hl ▸ he)⟩
    cases hx : r.aloneAction? e action with
    | none => rfl
    | some x => exact allows_absent hr he (hB past) hx

theorem oneByOne_take {ops : List Operation} (h : r.oneByOne ops = true) (k : Nat) :
    r.oneByOne (ops.take k) = true := by
  induction ops generalizing r k with
  | nil => simp [oneByOne]
  | cons o ops ih =>
    cases k with
    | zero => rfl
    | succ k =>
      simp only [List.take_succ_cons, oneByOne, Bool.and_eq_true] at h ⊢
      exact ⟨h.1, ih h.2 k⟩

theorem obeys_take {B : Behaviour} {past : List RegistryAction} {ops : List Operation}
    (h : r.obeys e B past (ops.flatMap Operation.all) = true) (k : Nat) :
    r.obeys e B past ((ops.take k).flatMap Operation.all) = true := by
  rw [← List.take_append_drop k ops, List.flatMap_append] at h
  obtain ⟨hrest, hfirst⟩ := obeys_append h
  exact hfirst (exits_of_obeys hrest)

/-- One server's failures are its own affair. Let the same calls come one after another in two runs,
and let every server but one behave alike in both; nothing is said of that one, so in one run it
may fail to start, hang, take nothing or exit where in the other one it does not. After each call
every other server has been started alike, with the same handles and the same slot, has the same
documents open, and has accepted the same notifications on each handle; and the documents have the
same versions. -/
theorem servers_isolated (hr : r.Fresh) {ops ops' : List Operation} {c : Nat}
    {files : Nat → Except FileError String} {behaviour : Nat → Behaviour}
    (hcalls : ops.map (·.call) = ops'.map (·.call))
    (hone : r.oneByOne ops = true) (hone' : r.oneByOne ops' = true)
    (hread : ∀ t result, .read t result ∈ ops.flatMap Operation.all → result = files t)
    (hread' : ∀ t result, .read t result ∈ ops'.flatMap Operation.all → result = files t)
    (hb : ∀ e < r.entries.length, e ≠ c →
      r.obeys e (behaviour e) [] (ops.flatMap Operation.all) = true)
    (hb' : ∀ e < r.entries.length, e ≠ c →
      r.obeys e (behaviour e) [] (ops'.flatMap Operation.all) = true) (k : Nat) :
    (∀ e, e ≠ c → (r.run ((ops.take k).flatMap Operation.all)).share e =
        (r.run ((ops'.take k).flatMap Operation.all)).share e) ∧
      (r.run ((ops.take k).flatMap Operation.all)).versions =
        (r.run ((ops'.take k).flatMap Operation.all)).versions := by
  have hsame (e : Nat) (hne : e ≠ c) :
      ∃ s, (numbering (r.run ((ops.take k).flatMap Operation.all)) e).Alone
          (r.run ((ops.take k).flatMap Operation.all)) s ∧
        (numbering (r.run ((ops'.take k).flatMap Operation.all)) e).Alone
          (r.run ((ops'.take k).flatMap Operation.all)) s := by
    have hreach := hr.reachable
    obtain ⟨B, hB, hB'⟩ : ∃ B : Behaviour,
        r.obeys e B [] (ops.flatMap Operation.all) = true ∧
          r.obeys e B [] (ops'.flatMap Operation.all) = true := by
      by_cases hlt : e < r.entries.length
      · exact ⟨behaviour e, hb e hlt hne, hb' e hlt hne⟩
      · have hle := Nat.le_of_not_lt hlt
        exact ⟨.steady, obeys_absent hreach hle fun _ => rfl, obeys_absent hreach hle fun _ => rfl⟩
    have hidle : r.idle = true := hr.idle
    have hcalls' : (ops.take k).map (·.call) = (ops'.take k).map (·.call) := by
      rw [List.map_take, List.map_take, hcalls]
    have hmem {ops : List Operation} {action : RegistryAction}
        (hm : action ∈ (ops.take k).flatMap Operation.all) :
        action ∈ ops.flatMap Operation.all := by
      obtain ⟨o, ho, hm⟩ := List.mem_flatMap.1 hm
      exact List.mem_flatMap.2 ⟨o, List.mem_of_mem_take ho, hm⟩
    obtain ⟨root, configs, watch, commandExists, handshakeMs, rfl⟩ := hr
    have halone (N : Numbering) := alone_ofConfigs root configs watch commandExists handshakeMs N
    have hs := reachable_run root ((distinct configs)[e]?).toList watch commandExists handshakeMs []
    exact Numbering.Alone.both hcalls' hs (halone (numbering _ e)) hreach hidle
      (oneByOne_take hone k) (numbering_fits _ e) (fun t result hm => hread t result (hmem hm))
      (obeys_take hB k) (halone (numbering _ e)) hreach hidle (oneByOne_take hone' k)
      (numbering_fits _ e) (fun t result hm => hread' t result (hmem hm)) (obeys_take hB' k)
  constructor
  · intro e hne
    obtain ⟨s, h, h'⟩ := hsame e hne
    rw [h.share, h'.share]
  · obtain ⟨s, h, h'⟩ := hsame (c + 1) (Nat.succ_ne_self c)
    rw [← h.versions, ← h'.versions]

def twoServers : Registry :=
  ofConfigs (.ofString "/w") [⟨"ts", "TypeScript", "tsserver", [], [.ofLanguage "typescript"]⟩,
    ⟨"lint", "Linter", "lint", [], [.ofLanguage "typescript"]⟩] none (fun _ => true) 1000

/-- A document is opened and changed while the first server does not start. -/
def withoutFirst : List Operation :=
  [⟨.document .opened (.ofString "a.ts"), [.resume 0, .read 0 (.ok "x"), .deliver 0 0, .deliver 0 1,
      .spawned 0 (.failed (.spawn "tsserver" "not found")), .spawned 1 (.running false),
      .deliver 0 1, .sent 0 1 true, .deliver 0 0]⟩,
    ⟨.document .changed (.ofString "a.ts"), [.resume 1, .read 1 (.ok "x"), .deliver 1 0,
      .deliver 1 1, .sent 1 1 true]⟩]

/-- The same while the first server starts late, takes the document and exits. -/
def withFirst : List Operation :=
  [⟨.document .opened (.ofString "a.ts"), [.resume 0, .read 0 (.ok "x"), .deliver 0 1,
      .spawned 0 (.running false), .deliver 0 1, .sent 0 1 true, .deliver 0 0,
      .spawned 1 (.running false), .deliver 0 0, .sent 0 0 true, .exit 1]⟩,
    ⟨.document .changed (.ofString "a.ts"), [.resume 1, .read 1 (.ok "x"), .deliver 1 0,
      .deliver 1 1, .sent 1 1 true, .spawned 2 .timedOut, .deliver 1 0]⟩]

theorem servers_isolated_two :
    withoutFirst.map (·.call) = withFirst.map (·.call) ∧
      (twoServers.run (withoutFirst.flatMap Operation.all)).share 1 =
        (twoServers.run (withFirst.flatMap Operation.all)).share 1 ∧
      (twoServers.run (withoutFirst.flatMap Operation.all)).share 0 ≠
        (twoServers.run (withFirst.flatMap Operation.all)).share 0 := by
  have hr : twoServers.Fresh := ⟨_, _, _, _, _, rfl⟩
  have hone : twoServers.oneByOne withoutFirst = true := by decide
  have hone' : twoServers.oneByOne withFirst = true := by decide
  have hread : ∀ t result, .read t result ∈ withoutFirst.flatMap Operation.all →
      result = .ok "x" := by
    intro t result hm
    simp [withoutFirst, Operation.all] at hm
    obtain ⟨_, h⟩ | ⟨_, h⟩ := hm <;> exact h
  have hread' : ∀ t result, .read t result ∈ withFirst.flatMap Operation.all →
      result = .ok "x" := by
    intro t result hm
    simp [withFirst, Operation.all] at hm
    obtain ⟨_, h⟩ | ⟨_, h⟩ := hm <;> exact h
  have hb : ∀ e < twoServers.entries.length, e ≠ 0 →
      twoServers.obeys e .steady [] (withoutFirst.flatMap Operation.all) = true := by decide
  have hb' : ∀ e < twoServers.entries.length, e ≠ 0 →
      twoServers.obeys e .steady [] (withFirst.flatMap Operation.all) = true := by decide
  have hshare := (@servers_isolated _ hr withoutFirst withFirst 0 (fun _ => .ok "x")
    (fun _ => .steady) rfl hone hone' hread hread' hb hb' 2).1 1 (by decide)
  rw [List.take_of_length_le (Nat.le_refl 2 : withoutFirst.length ≤ 2),
    List.take_of_length_le (Nat.le_refl 2 : withFirst.length ≤ 2)] at hshare
  refine ⟨rfl, hshare, fun h => ?_⟩
  exact absurd (congrArg (·.handles.length) h) (by decide)

end Registry

end Switchyard
