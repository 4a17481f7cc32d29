import Mathlib.Logic.Relation
import Switchyard.Proofs.Positions
import Switchyard.Registry

namespace Switchyard

namespace TaskStage

def closingHandles : TaskStage → List Nat
  | .closing handles => handles
  | _ => []

end TaskStage

namespace RegistryEvent

def isAcceptance : RegistryEvent → Bool
  | .accepted _ _ _ => true
  | _ => false

end RegistryEvent

namespace Slot

def handle? (slot : Slot) : Option Nat :=
  match slot.state with
  | .started handle => some handle
  | _ => none

def vacated (slot : Slot) : Slot :=
  { slot with state := .notStarted, generation := slot.generation + 1 }

theorem handle?_eq_some {slot : Slot} {h : Nat} :
    slot.handle? = some h ↔ slot.state = .started h := by
  unfold handle?
  split <;> simp_all

end Slot

namespace Entry

def vacated (entry : Entry) : Entry := { entry with slot := entry.slot.vacated, opened := [] }

end Entry

structure Servers where
  root : Path
  configs : List ServerConfig
  slots : List Slot
  attempts : List StartAttempt
  handles : List Handle
  /-- For each task, the handles whose shutdown it waits for. -/
  closing : List (List Nat)
  events : List RegistryEvent

namespace Servers

def installed (s : Servers) : List Nat := s.slots.filterMap Slot.handle?

def dispose (s : Servers) (h : Nat) : Servers :=
  match s.handles[h]? with
  | none => s
  | some handle =>
    if handle.disposed then s
    else { s with
      handles := s.handles.set h { handle with disposed := true }
      events := .disposed h :: s.events }

@[simp] theorem closing_dispose (s : Servers) (h : Nat) : (s.dispose h).closing = s.closing := by
  unfold dispose
  split
  · rfl
  · split <;> rfl

/-- Takes all servers out of their slots, for a task to shut them down. -/
def shutDown (s : Servers) (t : Nat) : Servers where
  root := s.root
  configs := s.configs
  slots := s.slots.map Slot.vacated
  attempts := s.attempts
  handles := s.handles
  closing := s.closing.set t s.installed
  events := (s.installed.map .shuttingDown).reverse ++ .shutdownAll :: s.events

/-- What can happen to servers, short of a shutdown of them all. -/
inductive Change (s : Servers) : Servers → Prop
  | call : Change s { s with closing := s.closing ++ [[]] }
  | spawn {e : Nat} {slot : Slot} (hs : s.slots[e]? = some slot) (hu : slot.unusable = false)
      (hn : slot.state = .notStarted) :
      Change s { s with
        slots := s.slots.set e
          { slot with state := .starting s.attempts.length, generation := slot.generation + 1 }
        attempts := s.attempts ++ [⟨e, slot.generation + 1, none⟩]
        events := .spawning e :: s.events }
  | fail {a e g : Nat} {slot : Slot} (error : ServerError)
      (ha : s.attempts[a]? = some ⟨e, g, none⟩) (hs : s.slots[e]? = some slot)
      (hg : slot.generation = g) :
      Change s { s with
        slots := s.slots.set e { slot with state := .notStarted, unusable := !error.isRetryable }
        attempts := s.attempts.set a ⟨e, g, some (.error error)⟩
        events := .startFailed e error :: s.events }
  | failLate {a e g : Nat} {slot : Slot} (error : ServerError)
      (ha : s.attempts[a]? = some ⟨e, g, none⟩) (hs : s.slots[e]? = some slot)
      (hg : slot.generation ≠ g) :
      Change s { s with attempts := s.attempts.set a ⟨e, g, some (.error error)⟩ }
  | install {a e g : Nat} {slot : Slot} (ha : s.attempts[a]? = some ⟨e, g, none⟩)
      (hs : s.slots[e]? = some slot) (hg : slot.generation = g) :
      Change s { s with
        slots := s.slots.set e { slot with state := .started s.handles.length }
        attempts := s.attempts.set a ⟨e, g, some (.ok s.handles.length)⟩
        handles := s.handles ++ [⟨e, g, true, false⟩] }
  | discard {a e g : Nat} {slot : Slot} (id : String) (ha : s.attempts[a]? = some ⟨e, g, none⟩)
      (hs : s.slots[e]? = some slot) (hg : slot.generation ≠ g) :
      Change s { s with
        attempts := s.attempts.set a
          ⟨e, g, some (.error (.transport id "registry shut down during startup"))⟩
        handles := s.handles ++ [⟨e, g, false, true⟩]
        events := .disposed s.handles.length :: s.events }
  | exit {h i : Nat} {handle : Handle} {slot : Slot} (hh : s.handles[h]? = some handle)
      (ha : handle.attended = true) (hs : s.slots[handle.entry]? = some slot)
      (hg : slot.generation = handle.generation) (hi : slot.state = .started i) :
      Change s (dispose { s with
        slots := s.slots.set handle.entry { slot with state := .notStarted }
        events := .exited i :: s.events } i)
  | close {t h : Nat} {hs : List Nat} (ht : s.closing[t]? = some hs) (hm : h ∈ hs) :
      Change s { s.dispose h with closing := s.closing.set t (hs.filter (· != h)) }

abbrev Changes : Servers → Servers → Prop := Relation.ReflTransGen Change

abbrev ChangeOnce : Servers → Servers → Prop := Relation.ReflGen Change

inductive Step (s : Servers) : Servers → Prop
  | change {s' : Servers} (h : Change s s') : Step s s'
  | shutdown {t : Nat} (ht : s.closing[t]? = some []) : Step s (s.shutDown t)

abbrev Steps : Servers → Servers → Prop := Relation.ReflTransGen Step

theorem Changes.steps {s s' : Servers} (h : Changes s s') : Steps s s' := by
  induction h with
  | refl => exact .refl
  | tail _ h ih => exact ih.tail (.change h)

end Servers

namespace Registry

variable {r : Registry} {t d e h a : Nat}

def servers (r : Registry) : Servers where
  root := r.root
  configs := r.entries.map (·.config)
  slots := r.entries.map (·.slot)
  attempts := r.attempts
  handles := r.handles
  closing := r.tasks.map (·.stage.closingHandles)
  events := r.history.filter (!·.isAcceptance)

theorem map_modify_eq {α β : Type} {l : List α} {i : Nat} {f : α → α} {p : α → β}
    (h : ∀ x, l[i]? = some x → p (f x) = p x) : (l.modify i f).map p = l.map p := by
  apply List.ext_getElem?
  intro j
  by_cases hij : i = j
  · subst j
    cases hx : l[i]? with
    | none => simp [hx]
    | some x => simp [hx, h x hx]
  · simp [hij]

theorem configs_modifyEntry (r : Registry) (e : Nat) {f : Entry → Entry}
    (hc : ∀ x, (f x).config = x.config) :
    (r.entries.modify e f).map (·.config) = r.entries.map (·.config) :=
  map_modify_eq fun x _ => hc x

theorem servers_modifyEntry (r : Registry) (e : Nat) {f : Entry → Entry}
    (hf : ∀ x, (f x).slot = x.slot) (hc : ∀ x, (f x).config = x.config) :
    (r.modifyEntry e f).servers = r.servers := by
  have he := map_modify_eq (l := r.entries) (i := e) fun x _ => hf x
  simp only [servers, modifyEntry, he, configs_modifyEntry r e hc]

@[simp] theorem servers_setVersion (r : Registry) (uri : String) (v : Int32) :
    (r.setVersion uri v).servers = r.servers := rfl

@[simp] theorem servers_dropVersion (r : Registry) (uri : String) :
    (r.dropVersion uri).servers = r.servers := rfl

@[simp] theorem servers_requestLock (r : Registry) (t : Nat) (uri : String) :
    (r.requestLock t uri).servers = r.servers := rfl

@[simp] theorem servers_releaseLock (r : Registry) (t : Nat) :
    (r.releaseLock t).servers = r.servers := rfl

@[simp] theorem servers_dropLock (r : Registry) (uri : String) :
    (r.dropLock uri).servers = r.servers := rfl

@[simp] theorem servers_unlock (r : Registry) (t : Nat) (errand : Errand) :
    (r.unlock t errand).servers = r.servers := by
  cases errand <;> rfl

theorem addOpened_slot (x : Entry) (uri : String) : (x.addOpened uri).slot = x.slot := by
  unfold Entry.addOpened
  split <;> rfl

theorem addOpened_config (x : Entry) (uri : String) : (x.addOpened uri).config = x.config := by
  unfold Entry.addOpened
  split <;> rfl

def Quiet (r : Registry) (t : Nat) : Prop :=
  ∀ task, r.tasks[t]? = some task → task.stage.closingHandles = []

theorem servers_setStage {stage : TaskStage} (hq : r.Quiet t) (hs : stage.closingHandles = []) :
    (r.setStage t stage).servers = r.servers := by
  have ht : (r.tasks.modify t ({ · with stage })).map (·.stage.closingHandles) =
      r.tasks.map (·.stage.closingHandles) :=
    map_modify_eq fun task h => hs.trans (hq task h).symm
  simp only [servers, setStage, ht]

theorem quiet_of_getElem {task : Task} (h : r.tasks[t]? = some task)
    (hs : task.stage.closingHandles = []) : r.Quiet t := by
  intro task' h'
  rw [h] at h'
  cases h'
  exact hs

theorem Quiet.of_tasks {r' : Registry} (hq : r.Quiet t) (h : r'.tasks = r.tasks) : r'.Quiet t := by
  intro task ht
  exact hq task (h ▸ ht)

@[simp] theorem tasks_unlock (r : Registry) (t : Nat) (errand : Errand) :
    (r.unlock t errand).tasks = r.tasks := by
  cases errand <;> rfl

@[simp] theorem servers_finish (r : Registry) (t : Nat) : (r.finish t).servers = r.servers := by
  unfold finish
  split
  · rename_i call errand ds ht
    split
    · have hq : r.Quiet t := quiet_of_getElem ht rfl
      rw [servers_setStage (hq.of_tasks (tasks_unlock r t errand)) rfl, servers_unlock]
    · rfl
  · rfl

theorem servers_routeTo (hq : r.Quiet t) (errand : Errand) (es : List Nat) :
    (r.routeTo t errand es).servers = r.servers :=
  servers_setStage hq rfl

theorem servers_holdLock (hq : r.Quiet t) (event : DocumentEvent) (path : Path) (uri : String) :
    (r.holdLock t event path uri).servers = r.servers := by
  cases event with
  | closed =>
    have hq' : (r.dropVersion uri).Quiet t := hq
    simp only [holdLock, servers_finish, servers_routeTo hq', servers_dropVersion]
  | _ => exact servers_setStage hq rfl

theorem servers_beginDocument (hq : r.Quiet t) (event : DocumentEvent) (file : Path) :
    (r.beginDocument t event file).servers = r.servers := by
  unfold beginDocument
  dsimp only
  split
  · exact servers_setStage hq rfl
  · rename_i uri _
    have hq' : (r.requestLock t uri).Quiet t := hq
    split
    · rw [servers_holdLock hq', servers_requestLock]
    · rw [servers_setStage hq' rfl, servers_requestLock]

theorem servers_read (r : Registry) (t : Nat) (result : Except FileError String) :
    (r.read t result).servers = r.servers := by
  unfold read
  split
  · rename_i event path uri ht
    have hq : r.Quiet t := quiet_of_getElem ht rfl
    cases result with
    | error e =>
      have hq' : ((r.releaseLock t).dropLock uri).Quiet t := hq
      rw [servers_setStage hq' rfl, servers_dropLock, servers_releaseLock]
    | ok text =>
      have hq' (v : Int32) : (r.setVersion uri v).Quiet t := hq
      simp only [servers_finish, servers_routeTo (hq' _), servers_setVersion]
  · rfl

theorem servers_sent (r : Registry) (t e h : Nat) (notice : Notice) (accepted : Bool) :
    (r.sent t e h notice accepted).1.servers = r.servers := by
  unfold sent
  dsimp only
  split
  · rfl
  · cases notice with
    | didOpen uri language version text => exact servers_modifyEntry r e (fun _ => rfl) fun _ => rfl
    | _ => rfl

theorem servers_arrive (r : Registry) (errand : Errand) (e : Nat) (entry : Entry) (h : Nat) :
    (r.arrive errand e entry h).1.servers = r.servers := by
  cases errand with
  | opening uri language text =>
    exact servers_modifyEntry r e (addOpened_slot · uri) (addOpened_config · uri)
  | changing uri language text version =>
    simp only [arrive]
    split
    · rfl
    · exact servers_modifyEntry r e (addOpened_slot · uri) (addOpened_config · uri)
  | closing uri =>
    simp only [arrive]
    split
    · exact servers_modifyEntry r e (fun _ => rfl) fun _ => rfl
    · rfl
  | _ => rfl

theorem servers_dispose (r : Registry) (h : Nat) : (r.dispose h).servers = r.servers.dispose h := by
  unfold dispose Servers.dispose
  split
  · rename_i hh
    simp only [servers, hh]
  · rename_i handle hh
    simp only [servers, hh]
    split <;> rfl

@[simp] theorem tasks_dispose (r : Registry) (h : Nat) : (r.dispose h).tasks = r.tasks := by
  unfold dispose
  split
  · rfl
  · split <;> rfl

theorem slot_of_entry {entry : Entry} (he : r.entries[e]? = some entry) :
    r.servers.slots[e]? = some entry.slot := by
  simp [servers, he]

theorem servers_modifyEntry_eq {entry : Entry} (he : r.entries[e]? = some entry)
    (f : Entry → Entry) (hc : ∀ x, (f x).config = x.config) :
    (r.modifyEntry e f).servers =
      { r.servers with slots := r.servers.slots.set e (f entry).slot } := by
  have hs : (r.entries.modify e f).map (·.slot) = r.servers.slots.set e (f entry).slot := by
    rw [List.modify_eq_set, he, Option.getD_some, List.map_set]
    rfl
  simp only [servers, modifyEntry] at hs ⊢
  rw [hs, configs_modifyEntry r e hc]

theorem servers_note {event : RegistryEvent} (h : event.isAcceptance = false) :
    (r.note event).servers = { r.servers with events := event :: r.servers.events } := by
  simp [servers, note, h]

theorem servers_beginAttempt {entry : Entry} (he : r.entries[e]? = some entry)
    (hu : entry.slot.unusable = false) (hn : entry.slot.state = .notStarted) :
    Servers.Change r.servers (r.beginAttempt e entry).servers := by
  let attempts := r.attempts ++ [⟨e, entry.slot.generation + 1, none⟩]
  have he' : { r with attempts }.entries[e]? = some entry := he
  unfold beginAttempt
  rw [servers_note rfl, servers_modifyEntry_eq he']
  · exact .spawn (slot_of_entry he) hu hn
  · exact fun _ => rfl

theorem servers_seek (errand : Errand) {entry : Entry} (he : r.entries[e]? = some entry) :
    Servers.ChangeOnce r.servers (r.seek errand e entry).1.servers := by
  unfold seek
  split
  · split
    · rw [servers_arrive]
    · exact .refl
  · split
    · exact .refl
    · rename_i hu
      split
      · rw [servers_arrive]
      · exact .refl
      · rename_i hn
        exact .single (servers_beginAttempt he (by simpa using hu) hn)

theorem servers_advance (errand : Errand) {d : Delivery} {entry : Entry}
    (he : r.entries[d.entry]? = some entry) :
    Servers.ChangeOnce r.servers (r.advance errand d entry).1.servers := by
  unfold advance
  split
  · exact servers_seek errand he
  · split
    · exact .refl
    · rw [servers_arrive]
    · exact .refl
  · exact .refl

theorem servers_setDelivery (hq : r.Quiet t) (errand : Errand) (ds : List Delivery) (d : Nat)
    (stage : DeliveryStage) : (r.setDelivery t errand ds d stage).servers = r.servers := by
  unfold setDelivery
  rw [servers_finish, servers_setStage hq rfl]

@[simp] theorem tasks_arrive (r : Registry) (errand : Errand) (e : Nat) (entry : Entry) (h : Nat) :
    (r.arrive errand e entry h).1.tasks = r.tasks := by
  unfold arrive
  split <;> (try split) <;> rfl

@[simp] theorem tasks_advance (r : Registry) (errand : Errand) (d : Delivery) (entry : Entry) :
    (r.advance errand d entry).1.tasks = r.tasks := by
  unfold advance seek
  split <;> (try split) <;> (try split) <;> (try split) <;> simp [beginAttempt, note, modifyEntry]

theorem deliver_cases (r : Registry) (t i : Nat) :
    r.deliver t i = r ∨ ∃ call errand ds delivery entry,
      r.tasks[t]? = some ⟨call, .routing errand ds⟩ ∧ ds[i]? = some delivery ∧
        r.entries[delivery.entry]? = some entry ∧ r.deliver t i =
          (r.advance errand delivery entry).1.setDelivery t errand ds i
            (r.advance errand delivery entry).2 := by
  unfold deliver
  split
  · rename_i call errand ds ht
    split
    · exact .inl rfl
    · rename_i delivery hd
      split
      · exact .inl rfl
      · rename_i entry he
        exact .inr ⟨call, errand, ds, delivery, entry, ht, hd, he, rfl⟩
  · exact .inl rfl

theorem servers_deliver (r : Registry) (t d : Nat) :
    Servers.ChangeOnce r.servers (r.deliver t d).servers := by
  obtain h | ⟨call, errand, ds, delivery, entry, ht, -, he, h⟩ := deliver_cases r t d
  · rw [h]
  · have hq : r.Quiet t := quiet_of_getElem ht rfl
    rw [h, servers_setDelivery (hq.of_tasks (tasks_advance r errand delivery entry))]
    exact servers_advance errand he

theorem tasks_sent (r : Registry) (t e h : Nat) (notice : Notice) (accepted : Bool) :
    (r.sent t e h notice accepted).1.tasks = r.tasks := by
  unfold sent
  dsimp only
  split
  · rfl
  · cases notice <;> rfl

theorem endSending_cases (r : Registry) (t i : Nat) (accepted : Bool) :
    r.endSending t i accepted = r ∨ ∃ call errand ds e h notice,
      r.tasks[t]? = some ⟨call, .routing errand ds⟩ ∧ ds[i]? = some ⟨e, .sending h notice⟩ ∧
        r.endSending t i accepted = (r.sent t e h notice accepted).1.setDelivery t errand ds i
          (r.sent t e h notice accepted).2 := by
  unfold endSending
  split
  · rename_i call errand ds ht
    split
    · rename_i e h notice hd
      exact .inr ⟨call, errand, ds, e, h, notice, ht, hd, rfl⟩
    · exact .inl rfl
  · exact .inl rfl

theorem servers_endSending (r : Registry) (t d : Nat) (accepted : Bool) :
    (r.endSending t d accepted).servers = r.servers := by
  obtain heq | ⟨call, errand, ds, e, h, notice, ht, -, heq⟩ := endSending_cases r t d accepted
  · rw [heq]
  · have hq : r.Quiet t := quiet_of_getElem ht rfl
    rw [heq, servers_setDelivery (hq.of_tasks (tasks_sent r t e h notice accepted)), servers_sent]

theorem servers_endAttempt {attempt : StartAttempt} (ha : r.attempts[a]? = some attempt)
    (outcome : Except ServerError Nat) :
    (r.endAttempt a outcome).servers = { r.servers with
      attempts := r.servers.attempts.set a { attempt with outcome := some outcome } } := by
  simp only [servers, endAttempt, List.modify_eq_set, ha, Option.getD_some]

theorem servers_failAttempt {attempt : StartAttempt} {entry : Entry}
    (ha : r.attempts[a]? = some attempt) (ho : attempt.outcome = none)
    (he : r.entries[attempt.entry]? = some entry) (error : ServerError) :
    Servers.Change r.servers (r.failAttempt a attempt
      (entry.slot.generation == attempt.generation) error).servers := by
  obtain ⟨e, g, _⟩ := attempt
  cases ho
  unfold failAttempt
  by_cases hg : entry.slot.generation = g
  · have he' : (r.endAttempt a (.error error)).entries[e]? = some entry := he
    simp only [hg, beq_self_eq_true, if_true]
    rw [servers_note rfl, servers_modifyEntry_eq he', servers_endAttempt ha]
    · exact .fail error ha (slot_of_entry he) hg
    · exact fun _ => rfl
  · simp only [beq_eq_false_iff_ne.2 hg, Bool.false_eq_true, if_false]
    rw [servers_endAttempt ha]
    exact .failLate error ha (slot_of_entry he) hg

theorem servers_exit (r : Registry) (h : Nat) :
    Servers.ChangeOnce r.servers (r.exit h).servers := by
  unfold exit
  split
  · exact .refl
  · rename_i handle hh
    split
    · exact .refl
    · rename_i entry he
      split
      · rename_i hc
        simp only [Bool.and_eq_true, beq_iff_eq] at hc
        split
        · rename_i i hi
          rw [servers_dispose, servers_note rfl, servers_modifyEntry_eq he]
          · exact .single (.exit hh hc.1 (slot_of_entry he) hc.2 hi)
          · exact fun _ => rfl
        · exact .refl
      · exact .refl

theorem dispose_last (r : Registry) (e g : Nat) (attended : Bool) :
    { r with handles := r.handles ++ [(⟨e, g, attended, false⟩ : Handle)] }.dispose
        r.handles.length =
      { r with
        handles := r.handles ++ [(⟨e, g, attended, true⟩ : Handle)]
        history := .disposed r.handles.length :: r.history } := by
  simp [dispose, note, List.set_append_right]

/-- A server that is found to be over as soon as it is listened to comes up and exits. -/
theorem install_exited (r : Registry) (a : Nat) (attempt : StartAttempt) (id : String)
    (current : Bool) :
    r.install a attempt id current true =
      if current then (r.install a attempt id true false).exit r.handles.length
      else r.install a attempt id false false := by
  cases current <;> rfl

theorem servers_install {attempt : StartAttempt} {entry : Entry}
    (ha : r.attempts[a]? = some attempt) (ho : attempt.outcome = none)
    (he : r.entries[attempt.entry]? = some entry) (id : String) :
    Servers.Change r.servers (r.install a attempt id
      (entry.slot.generation == attempt.generation) false).servers := by
  obtain ⟨e, g, _⟩ := attempt
  cases ho
  unfold install
  by_cases hg : entry.slot.generation = g
  · simp only [hg, beq_self_eq_true, if_true, Bool.false_eq_true, if_false]
    let r' : Registry := { r with handles := r.handles ++ [(⟨e, g, true, false⟩ : Handle)] }
    let f (x : Entry) : Entry := { x.withState (.started r.handles.length) with opened := [] }
    have he' : r'.entries[e]? = some entry := he
    have ha' : (r'.modifyEntry e f).attempts[a]? = some ⟨e, g, none⟩ := ha
    rw [servers_endAttempt ha', servers_modifyEntry_eq he']
    · exact .install ha (slot_of_entry he) hg
    · exact fun _ => rfl
  · simp only [beq_eq_false_iff_ne.2 hg, Bool.false_eq_true, if_false]
    rw [dispose_last, servers_endAttempt (by exact ha)]
    exact .discard id ha (slot_of_entry he) hg

theorem servers_install_exited {attempt : StartAttempt} {entry : Entry}
    (ha : r.attempts[a]? = some attempt) (ho : attempt.outcome = none)
    (he : r.entries[attempt.entry]? = some entry) (id : String) :
    Servers.Changes r.servers (r.install a attempt id
      (entry.slot.generation == attempt.generation) true).servers := by
  have hi := servers_install ha ho he id
  rw [install_exited]
  split
  · rename_i hc
    rw [hc] at hi
    exact .head hi (servers_exit _ _).to_reflTransGen
  · rename_i hc
    rw [eq_false_of_ne_true hc] at hi
    exact .single hi

theorem servers_spawned (r : Registry) (a : Nat) (outcome : SpawnOutcome) :
    Servers.Changes r.servers (r.spawned a outcome).servers := by
  unfold spawned
  split
  · rfl
  · rename_i attempt ha
    split
    · rename_i entry he ho
      cases outcome with
      | running exited =>
        cases exited with
        | false => exact .single (servers_install ha ho he _)
        | true => exact servers_install_exited ha ho he _
      | failed error => exact .single (servers_failAttempt ha ho he error)
      | timedOut => exact .single (servers_failAttempt ha ho he _)
    · rfl

theorem history_foldl_shuttingDown (handles : List Nat) (r : Registry) :
    handles.foldl (fun r h => r.note (.shuttingDown h)) r =
      { r with history := (handles.map .shuttingDown).reverse ++ r.history } := by
  induction handles generalizing r with
  | nil => rfl
  | cons h handles ih =>
    rw [List.foldl_cons, ih]
    simp [note]

theorem servers_setStage_closing {task : Task} (ht : r.tasks[t]? = some task) (stage : TaskStage) :
    (r.setStage t stage).servers =
      { r.servers with closing := r.servers.closing.set t stage.closingHandles } := by
  have hs : (r.tasks.modify t ({ · with stage })).map (·.stage.closingHandles) =
      r.servers.closing.set t stage.closingHandles := by
    rw [List.modify_eq_set, ht, Option.getD_some, List.map_set]
    rfl
  simp only [servers, setStage] at hs ⊢
  rw [hs]

theorem takeAll_eq (r : Registry) : r.takeAll =
    ({ r with
      entries := r.entries.map Entry.vacated
      history := ((r.entries.filterMap Entry.handle?).map .shuttingDown).reverse ++
        .shutdownAll :: r.history }, r.entries.filterMap Entry.handle?) := by
  unfold takeAll
  dsimp only
  rw [history_foldl_shuttingDown]
  rfl

theorem servers_shutdownAll {call : RegistryCall} (ht : r.tasks[t]? = some ⟨call, .begun⟩) :
    (r.begin t .shutdownAll).servers = r.servers.shutDown t := by
  have hi : r.entries.filterMap Entry.handle? = r.servers.installed := by
    simp only [servers, Servers.installed, List.filterMap_map]
    rfl
  have ht' : (r.takeAll).1.tasks[t]? = some ⟨call, .begun⟩ := by rwa [takeAll_eq]
  have hs : (r.takeAll).1.servers = { r.servers with
      slots := r.servers.slots.map Slot.vacated
      events := (r.servers.installed.map .shuttingDown).reverse ++
        .shutdownAll :: r.servers.events } := by
    rw [takeAll_eq]
    simp only [servers, hi, List.map_map, List.filter_append, List.filter_cons]
    simp [Function.comp_def, Entry.vacated, RegistryEvent.isAcceptance]
  have hn : (if r.servers.installed.isEmpty then TaskStage.done (.ok .nothing)
      else .closing r.servers.installed).closingHandles = r.servers.installed := by
    split
    · rename_i h
      exact (List.isEmpty_iff.1 h).symm
    · rfl
  have hb : r.begin t .shutdownAll = (r.takeAll).1.setStage t
      (if (r.takeAll).2.isEmpty then .done (.ok .nothing) else .closing (r.takeAll).2) := rfl
  have h2 : (r.takeAll).2 = r.servers.installed := by rw [takeAll_eq, hi]
  rw [hb, h2, servers_setStage_closing ht', hs, hn]
  rfl

theorem servers_close (r : Registry) (t h : Nat) :
    Servers.ChangeOnce r.servers (r.close t h).servers := by
  unfold close
  split
  · rename_i call handles ht
    split
    · rename_i hm
      have ht' : (r.dispose h).tasks[t]? = some ⟨call, .closing handles⟩ := by
        rwa [tasks_dispose]
      have hc : r.servers.closing[t]? = some handles := by
        simp [servers, ht, TaskStage.closingHandles]
      have hn : (if (handles.filter (· != h)).isEmpty then TaskStage.done (.ok .nothing)
          else .closing (handles.filter (· != h))).closingHandles = handles.filter (· != h) := by
        split
        · rename_i hf
          exact (List.isEmpty_iff.1 hf).symm
        · rfl
      dsimp only
      rw [servers_setStage_closing ht', servers_dispose, hn, Servers.closing_dispose]
      exact .single (.close hc (List.contains_iff_mem.1 hm))
    · exact .refl
  · exact .refl

theorem servers_begin (hq : r.Quiet t) {call : RegistryCall} (hc : call ≠ .shutdownAll) :
    (r.begin t call).servers = r.servers := by
  cases call with
  | document event file => exact servers_beginDocument hq event file
  | watched event file =>
    simp only [begin]
    split
    · exact servers_beginDocument hq event file
    · exact servers_setStage hq (by split <;> rfl)
  | start id =>
    simp only [begin]
    split
    · exact servers_setStage hq rfl
    · exact servers_routeTo hq _ _
  | route file method params => simp only [begin, servers_finish, servers_routeTo hq]
  | prewarm dryRun languages =>
    simp only [begin]
    split
    · exact servers_setStage hq rfl
    · simp only [servers_finish, servers_routeTo hq]
  | shutdownAll => exact absurd rfl hc

theorem servers_resume (r : Registry) (t : Nat) :
    (r.resume t).servers = r.servers ∨ r.tasks[t]? = some ⟨.shutdownAll, .begun⟩ ∧
      (r.resume t).servers = r.servers.shutDown t := by
  unfold resume
  split
  · rename_i call ht
    by_cases hc : call = .shutdownAll
    · subst hc
      exact .inr ⟨ht, servers_shutdownAll ht⟩
    · exact .inl (servers_begin (quiet_of_getElem ht rfl) hc)
  · rename_i event path uri ht
    split
    · exact .inl (servers_holdLock (quiet_of_getElem ht rfl) event path uri)
    · exact .inl rfl
  · exact .inl rfl

theorem servers_receive (r : Registry) (h : Nat) (method : String) (params : Option Json) :
    (r.receive h method params).servers = r.servers := by
  unfold receive
  repeat' split
  all_goals rfl

/-- What an action does to the servers is a sequence of changes, or a shutdown of them all if it
begins a task that was to do that. -/
theorem servers_step (r : Registry) (action : RegistryAction) :
    Servers.Changes r.servers (r.step action).servers ∨
      ∃ t, action = .resume t ∧ r.tasks[t]? = some ⟨.shutdownAll, .begun⟩ ∧
        (r.step action).servers = r.servers.shutDown t := by
  cases action with
  | call call =>
    have hc : (r.step (.call call)).servers =
        { r.servers with closing := r.servers.closing ++ [[]] } := by
      simp [step, servers, TaskStage.closingHandles]
    rw [hc]
    exact .inl (.single .call)
  | resume t =>
    obtain h | ⟨ht, h⟩ := servers_resume r t
    · exact .inl (h ▸ .refl)
    · exact .inr ⟨t, rfl, ht, h⟩
  | read t result => exact .inl (servers_read r t result ▸ .refl)
  | deliver t d => exact .inl (servers_deliver r t d).to_reflTransGen
  | sent t d accepted => exact .inl (servers_endSending r t d accepted ▸ .refl)
  | spawned a outcome => exact .inl (servers_spawned r a outcome)
  | closed t h => exact .inl (servers_close r t h).to_reflTransGen
  | exit h => exact .inl (servers_exit r h).to_reflTransGen
  | notify h method params => exact .inl (servers_receive r h method params ▸ .refl)
  | hub call => exact .inl .refl

theorem servers_steps (r : Registry) (action : RegistryAction) :
    Servers.Steps r.servers (r.step action).servers := by
  obtain h | ⟨t, _, ht, h⟩ := servers_step r action
  · exact h.steps
  · rw [h]
    exact .single (.shutdown (by simp [servers, ht, TaskStage.closingHandles]))

theorem servers_run (r : Registry) (actions : List RegistryAction) :
    Servers.Steps r.servers (r.run actions).servers := by
  induction actions generalizing r with
  | nil => exact .refl
  | cons action actions ih => exact (servers_steps r action).trans (ih (r.step action))

end Registry
end Switchyard
