import Switchyard.Proofs.Registry.Errands
import Switchyard.Proofs.Registry.Locks

namespace Switchyard

/-- The version that an event gives a document, from the one before; a document that is not open
has none. -/
def DocumentEvent.version : DocumentEvent → Option Int32 → Option Int32
  | .opened, _ => some 1
  | .changed, some v => some (v + 1)
  | .changed, none => some 1
  | .closed, _ => none

/-- Where a task stands with the lock of its document. -/
inductive TurnStage where
  | waiting (event : DocumentEvent)
  | reading (event : DocumentEvent)
  /-- Has given the document a version, and tells the servers. -/
  | telling
  | closing
  deriving DecidableEq

namespace TurnStage

def isWaiting : TurnStage → Bool
  | .waiting _ => true
  | _ => false

def isReading : TurnStage → Bool
  | .reading _ => true
  | _ => false

end TurnStage

def Errand.turn? : Errand → Option (String × TurnStage)
  | .opening uri _ _ | .changing uri _ _ _ => some (uri, .telling)
  | .closing uri => some (uri, .closing)
  | .start | .telling _ _ => none

/-- An errand that sends a notification about a document is one on that document. -/
theorem Errand.turn?_of_sends {errand : Errand} {notice : Notice} {uri : String}
    (hs : errand.Sends notice) (hn : notice.uri? = some uri) :
    ∃ stage, errand.turn? = some (uri, stage) := by
  cases errand with
  | start => exact hs.elim
  | opening u language text =>
    cases hs
    cases hn
    exact ⟨_, rfl⟩
  | changing u language text version =>
    obtain rfl | rfl := hs
    all_goals
      cases hn
      exact ⟨_, rfl⟩
  | closing u =>
    cases hs
    cases hn
    exact ⟨_, rfl⟩
  | telling method params =>
    cases hs
    cases hn

def TaskStage.turn? : TaskStage → Option (String × TurnStage)
  | .locking event _ uri => some (uri, .waiting event)
  | .reading event _ uri => some (uri, .reading event)
  | .routing errand _ => errand.turn?
  | _ => none

inductive TurnEvent where
  | asked (task : Nat) (uri : String)
  | taken (task : Nat) (uri : String)
  /-- A task gave a document its version, or took it away. -/
  | wrote (task : Nat) (uri : String) (event : DocumentEvent)

namespace TurnEvent

/-- A turn begins; one at a document to be closed takes the version away at once. -/
def turn (t : Nat) (event : DocumentEvent) (uri : String) : List TurnEvent :=
  match event with
  | .closed => [.taken t uri, .wrote t uri .closed]
  | _ => [.taken t uri]

def asked? (uri : String) : TurnEvent → Option Nat
  | .asked t u => if u = uri then some t else none
  | _ => none

def taken? (uri : String) : TurnEvent → Option Nat
  | .taken t u => if u = uri then some t else none
  | _ => none

def wrote? (uri : String) : TurnEvent → Option (Nat × DocumentEvent)
  | .wrote t u event => if u = uri then some (t, event) else none
  | _ => none

end TurnEvent

structure Turns where
  stages : List (Option (String × TurnStage))
  locks : DocumentLocks
  versions : List (String × Int32)
  watch : Option WatchFilter

namespace Turns

def stand (x : Turns) (t : Nat) (stage : Option (String × TurnStage)) : Turns :=
  { x with stages := x.stages.set t stage }

def write (x : Turns) (uri : String) (event : DocumentEvent) : Turns :=
  let others := x.versions.filter (·.1 != uri)
  { x with versions := ((event.version (x.versions.lookup uri)).map (uri, ·)).toList ++ others }

inductive Step (x : Turns) : List TurnEvent → Turns → Prop
  | call : Step x [] { x with stages := x.stages ++ [none] }
  | ask {t : Nat} (uri : String) (event : DocumentEvent) (hs : x.stages[t]? = some none) :
      Step x [.asked t uri]
        ({ x with locks := x.locks.request t uri }.stand t (some (uri, .waiting event)))
  | take {t : Nat} {uri : String} {event : DocumentEvent}
      (hs : x.stages[t]? = some (some (uri, .waiting event))) (hl : x.locks.has t = true) :
      Step x [.taken t uri] (x.stand t (some (uri, .reading event)))
  | close {t : Nat} {uri : String} (hs : x.stages[t]? = some (some (uri, .waiting .closed)))
      (hl : x.locks.has t = true) :
      Step x [.taken t uri, .wrote t uri .closed]
        ((x.write uri .closed).stand t (some (uri, .closing)))
  | write {t : Nat} {uri : String} {event : DocumentEvent} (he : event ≠ .closed)
      (hs : x.stages[t]? = some (some (uri, .reading event))) :
      Step x [.wrote t uri event] ((x.write uri event).stand t (some (uri, .telling)))
  | giveUp {t : Nat} {uri : String} {event : DocumentEvent}
      (hs : x.stages[t]? = some (some (uri, .reading event))) :
      Step x [] ({ x with locks := (x.locks.release t).drop uri }.stand t none)
  | leave {t : Nat} {uri : String} (hs : x.stages[t]? = some (some (uri, .telling))) :
      Step x [] ({ x with locks := x.locks.release t }.stand t none)
  | forget {t : Nat} {uri : String} (hs : x.stages[t]? = some (some (uri, .closing))) :
      Step x [] ({ x with locks := (x.locks.release t).drop uri }.stand t none)

/-- A list of steps, with all that can be seen of them. -/
inductive Trace (x : Turns) : List TurnEvent → Turns → Prop
  | refl : Trace x [] x
  | tail {y z : Turns} {events more : List TurnEvent} (h : Trace x events y) (h' : Step y more z) :
      Trace x (events ++ more) z

namespace Trace

variable {x y z : Turns} {events more : List TurnEvent}

theorem single (h : Step x events y) : Trace x events y := by
  have ht := Trace.refl.tail h
  rwa [List.nil_append] at ht

theorem trans (h : Trace x events y) (h' : Trace y more z) : Trace x (events ++ more) z := by
  induction h' with
  | refl => rwa [List.append_nil]
  | tail _ hs ih =>
    rw [← List.append_assoc]
    exact ih.tail hs

theorem silent (h : Trace x events y) (h' : Trace y [] z) : Trace x events z := by
  have ht := h.trans h'
  rwa [List.append_nil] at ht

end Trace

variable {x y : Turns} {t : Nat}

@[simp] theorem stand_stand (x : Turns) (t : Nat) (stage stage' : Option (String × TurnStage)) :
    (x.stand t stage).stand t stage' = x.stand t stage' := by
  simp [stand]

theorem stand_self {stage : Option (String × TurnStage)} (h : x.stages[t]? = some stage) :
    x.stand t stage = x := by
  obtain ⟨hl, rfl⟩ := List.getElem?_eq_some_iff.1 h
  simp [stand]

end Turns

namespace Registry

variable {r : Registry} {t : Nat}

def turns (r : Registry) : Turns := ⟨r.tasks.map (·.stage.turn?), r.locks, r.versions, r.watch⟩

/-- The document whose lock a call asks for when it begins, and what has happened to it. -/
def asks? (r : Registry) : RegistryCall → Option (DocumentEvent × String)
  | .document event file => (Uri.ofPath? (r.resolve file)).map (event, ·)
  | .watched event file =>
    if r.watch.all (·.accepts file) then (Uri.ofPath? (r.resolve file)).map (event, ·) else none
  | _ => none

def turnEvents (r : Registry) : RegistryAction → List TurnEvent
  | .resume t =>
    match r.tasks[t]? with
    | some ⟨call, .begun⟩ =>
      match r.asks? call with
      | some (event, uri) =>
        .asked t uri ::
          if (r.requestLock t uri).hasLock t then TurnEvent.turn t event uri else []
      | none => []
    | some ⟨_, .locking event _ uri⟩ => if r.hasLock t then TurnEvent.turn t event uri else []
    | _ => []
  | .read t (.ok _) =>
    match r.tasks[t]? with
    | some ⟨_, .reading event _ uri⟩ => [.wrote t uri event]
    | _ => []
  | _ => []

def turnsOf (r : Registry) : List RegistryAction → List TurnEvent
  | [] => []
  | action :: actions => r.turnEvents action ++ (r.step action).turnsOf actions

theorem turns_setStage (r : Registry) (t : Nat) (stage : TaskStage) :
    (r.setStage t stage).turns = r.turns.stand t stage.turn? := by
  simp only [turns, setStage, Turns.stand, Turns.mk.injEq, and_true]
  apply List.ext_getElem?
  intro u
  by_cases h : t = u
  · subst h
    cases ht : r.tasks[t]? with
    | none => simp [List.getElem?_eq_none_iff.1 ht]
    | some task => simp [(List.getElem?_eq_some_iff.1 ht).1]
  · simp [h]

theorem turns_of_task {task : Task} (ht : r.tasks[t]? = some task) :
    r.turns.stages[t]? = some task.stage.turn? := by
  simp [turns, ht]

theorem turns_setStage_self {task : Task} (ht : r.tasks[t]? = some task) (stage : TaskStage)
    (hs : stage.turn? = task.stage.turn?) : (r.setStage t stage).turns = r.turns := by
  rw [turns_setStage, hs]
  exact Turns.stand_self (turns_of_task ht)

@[simp] theorem turns_modifyEntry (r : Registry) (e : Nat) (f : Entry → Entry) :
    (r.modifyEntry e f).turns = r.turns := rfl

@[simp] theorem turns_note (r : Registry) (event : RegistryEvent) :
    (r.note event).turns = r.turns := rfl

@[simp] theorem turns_dispose (r : Registry) (h : Nat) : (r.dispose h).turns = r.turns := by
  unfold dispose
  split
  · rfl
  · split <;> rfl

theorem turns_exit (r : Registry) (h : Nat) : (r.exit h).turns = r.turns := by
  unfold exit
  repeat' split
  all_goals simp

theorem turns_spawned (r : Registry) (a : Nat) (outcome : SpawnOutcome) :
    (r.spawned a outcome).turns = r.turns := by
  unfold spawned
  split
  · rfl
  split
  · cases outcome with
    | running exited =>
      simp only [install]
      split
      · split
        · exact turns_exit _ _
        · rfl
      · exact turns_dispose _ _
    | _ =>
      simp only [failAttempt]
      split <;> rfl
  · rfl

theorem turns_takeAll (r : Registry) : (r.takeAll).1.turns = r.turns := by
  rw [takeAll_eq]
  rfl

theorem turns_arrive (r : Registry) (errand : Errand) (e : Nat) (entry : Entry) (h : Nat) :
    (r.arrive errand e entry h).1.turns = r.turns := by
  unfold arrive
  split
  case h_3 => split <;> rfl
  case h_4 => split <;> rfl
  all_goals rfl

theorem turns_advance (r : Registry) (errand : Errand) (d : Delivery) (entry : Entry) :
    (r.advance errand d entry).1.turns = r.turns := by
  unfold advance seek
  repeat' split
  all_goals first | exact turns_arrive r _ _ entry _ | rfl

theorem turns_sent (r : Registry) (t e h : Nat) (notice : Notice) (accepted : Bool) :
    (r.sent t e h notice accepted).1.turns = r.turns := by
  unfold sent
  dsimp only
  split
  · rfl
  · cases notice <;> rfl

theorem turns_finish (r : Registry) (t : Nat) : Turns.Trace r.turns [] (r.finish t).turns := by
  unfold finish
  split
  · rename_i call errand ds ht
    have hs := turns_of_task ht
    split
    · rw [turns_setStage]
      cases errand with
      | opening uri language text => exact .single (.leave hs)
      | changing uri language text version => exact .single (.leave hs)
      | closing uri => exact .single (.forget hs)
      | _ =>
        rw [unlock, ← turns_setStage, turns_setStage_self ht (.done _) rfl]
        exact .refl
    · exact .refl
  · exact .refl

theorem turns_setDelivery {call : RegistryCall} {errand : Errand} {ds' : List Delivery}
    (ht : r.tasks[t]? = some ⟨call, .routing errand ds'⟩) (ds : List Delivery) (d : Nat)
    (stage : DeliveryStage) :
    Turns.Trace r.turns [] (r.setDelivery t errand ds d stage).turns := by
  have hs := turns_setStage_self ht (.routing errand (ds.modify d ({ · with stage }))) rfl
  have h := turns_finish (r.setStage t (.routing errand (ds.modify d ({ · with stage })))) t
  rwa [hs] at h

theorem turns_holdLock {event : DocumentEvent} {uri : String} (path : Path) {x : Turns}
    (hx : r.turns.stand t (some (uri, .waiting event)) = x)
    (hs : x.stages[t]? = some (some (uri, .waiting event))) (hl : r.hasLock t = true) :
    Turns.Trace x (TurnEvent.turn t event uri) (r.holdLock t event path uri).turns := by
  have hl' : x.locks.has t = true := by
    rw [← hx]
    exact hl
  cases event with
  | closed =>
    have hc := Turns.Trace.single (Turns.Step.close hs hl')
    refine hc.silent ?_
    have hf := turns_finish ((r.dropVersion uri).routeTo t (.closing uri) (r.matching path)) t
    have hw : (x.write uri .closed).stand t (some (uri, .closing)) =
        ((r.dropVersion uri).routeTo t (.closing uri) (r.matching path)).turns := by
      rw [routeTo, turns_setStage, ← hx]
      exact Turns.stand_stand (r.turns.write uri .closed) t _ _
    rw [hw]
    exact hf
  | opened =>
    have hw : (r.holdLock t .opened path uri).turns = x.stand t (some (uri, .reading .opened)) := by
      rw [← hx, Turns.stand_stand]
      exact turns_setStage r t _
    rw [hw]
    exact .single (.take hs hl')
  | changed =>
    have hw : (r.holdLock t .changed path uri).turns =
        x.stand t (some (uri, .reading .changed)) := by
      rw [← hx, Turns.stand_stand]
      exact turns_setStage r t _
    rw [hw]
    exact .single (.take hs hl')

theorem turns_beginDocument {call : RegistryCall} {event : DocumentEvent} {uri : String}
    (file : Path) (ht : r.tasks[t]? = some ⟨call, .begun⟩)
    (hu : Uri.ofPath? (r.resolve file) = some uri) :
    Turns.Trace r.turns (.asked t uri ::
        if (r.requestLock t uri).hasLock t then TurnEvent.turn t event uri else [])
      (r.beginDocument t event file).turns := by
  have hs := turns_of_task ht
  have hask := Turns.Trace.single (Turns.Step.ask uri event hs)
  have hw : ((r.requestLock t uri).turns.stand t (some (uri, .waiting event))).stages[t]? =
      some (some (uri, .waiting event)) := getElem?_set_of_some hs
  simp only [beginDocument, hu]
  split
  · rename_i hl
    exact hask.trans (turns_holdLock (r.resolve file) rfl hw hl)
  · rw [turns_setStage]
    exact hask

theorem turns_begin {call : RegistryCall} (ht : r.tasks[t]? = some ⟨call, .begun⟩) :
    Turns.Trace r.turns (r.turnEvents (.resume t)) (r.begin t call).turns := by
  have hnone {stage : TaskStage} (hstage : stage.turn? = none) :
      (r.setStage t stage).turns = r.turns :=
    turns_setStage_self ht stage hstage
  have hdocument (event : DocumentEvent) (file : Path) :
      Turns.Trace r.turns
        (match (Uri.ofPath? (r.resolve file)).map (event, ·) with
          | some (event, uri) =>
            .asked t uri ::
              if (r.requestLock t uri).hasLock t then TurnEvent.turn t event uri else []
          | none => [])
        (r.beginDocument t event file).turns := by
    cases hu : Uri.ofPath? (r.resolve file) with
    | some uri => exact turns_beginDocument file ht hu
    | none =>
      simp only [beginDocument, hu]
      rw [hnone rfl]
      exact .refl
  simp only [turnEvents, ht]
  cases call with
  | document event file => exact hdocument event file
  | watched event file =>
    cases hw : r.watch.all (·.accepts file) with
    | true =>
      simp only [asks?, begin, hw, if_true]
      exact hdocument event file
    | false =>
      simp only [asks?, begin, hw, Bool.false_eq_true, if_false]
      rw [hnone (by split <;> rfl)]
      exact .refl
  | start id =>
    simp only [asks?, begin]
    split
    · rw [hnone rfl]
      exact .refl
    · rw [routeTo, hnone rfl]
      exact .refl
  | route file method params =>
    have hf := turns_finish (r.routeTo t (.telling method params) (r.matching (r.resolve file))) t
    rw [routeTo, hnone rfl] at hf
    exact hf
  | prewarm dryRun languages =>
    simp only [asks?, begin]
    split
    · rw [hnone rfl]
      exact .refl
    · have hf := turns_finish (r.routeTo t .start (r.candidates languages)) t
      rw [routeTo, hnone rfl] at hf
      exact hf
  | shutdownAll =>
    have ht' : (r.takeAll).1.tasks[t]? = some ⟨.shutdownAll, .begun⟩ := by rwa [takeAll_eq]
    simp only [asks?, begin]
    rw [turns_setStage_self ht', turns_takeAll]
    · exact .refl
    · split <;> rfl

theorem turns_resume (r : Registry) (t : Nat) :
    Turns.Trace r.turns (r.turnEvents (.resume t)) (r.resume t).turns := by
  unfold resume
  split
  · rename_i call ht
    exact turns_begin ht
  · rename_i call event path uri ht
    have hs := turns_of_task ht
    simp only [turnEvents, ht]
    split
    · rename_i hl
      exact turns_holdLock path (Turns.stand_self hs) hs hl
    · exact .refl
  · rename_i hb hl
    have hn : r.turnEvents (.resume t) = [] := by
      simp only [turnEvents]
    rw [hn]
    exact .refl

theorem turns_read (hf : r.TaskFits t) (result : Except FileError String) :
    Turns.Trace r.turns (r.turnEvents (.read t result)) (r.read t result).turns := by
  unfold read
  split
  · rename_i call event path uri ht
    have hs := turns_of_task ht
    obtain ⟨_, hc⟩ := hf _ ht
    cases result with
    | error e =>
      have hw : (((r.releaseLock t).dropLock uri).setStage t
          (.done (.error (.read path e.message)))).turns =
            { r.turns with locks := (r.turns.locks.release t).drop uri }.stand t none :=
        turns_setStage _ _ _
      rw [hw]
      exact .single (.giveUp hs)
    | ok text =>
      simp only [turnEvents, ht]
      refine (Turns.Trace.single (.write hc hs)).silent ?_
      have hfinish (v : Int32) (errand : Errand) (es : List Nat) :=
        turns_finish ((r.setVersion uri v).routeTo t errand es) t
      cases event with
      | closed => exact absurd rfl hc
      | opened =>
        have h := hfinish 1 (.opening uri (Language.detect path) text) (r.matching path)
        rw [routeTo, turns_setStage] at h
        exact h
      | changed =>
        have h := hfinish (r.nextVersion uri)
          (.changing uri (Language.detect path) text (r.nextVersion uri)) (r.matching path)
        rw [routeTo, turns_setStage] at h
        have hw : r.turns.write uri .changed = (r.setVersion uri (r.nextVersion uri)).turns := by
          simp only [Turns.write, turns, setVersion, nextVersion]
          cases r.versions.lookup uri <;> rfl
        rw [hw]
        exact h
  · rename_i hn
    have he : r.turnEvents (.read t result) = [] := by
      cases result with
      | error e => rfl
      | ok text =>
        simp only [turnEvents]
    rw [he]
    exact .refl

theorem turns_deliver (r : Registry) (t d : Nat) :
    Turns.Trace r.turns [] (r.deliver t d).turns := by
  obtain heq | ⟨call, errand, ds, delivery, entry, ht, -, -, heq⟩ := deliver_cases r t d
  · rw [heq]
    exact .refl
  · have ht' : (r.advance errand delivery entry).1.tasks[t]? = some ⟨call, .routing errand ds⟩ := by
      rwa [tasks_advance]
    have h := turns_setDelivery ht' ds d (r.advance errand delivery entry).2
    rwa [turns_advance, ← heq] at h

theorem turns_endSending (r : Registry) (t d : Nat) (accepted : Bool) :
    Turns.Trace r.turns [] (r.endSending t d accepted).turns := by
  obtain heq | ⟨call, errand, ds, e, h, notice, ht, -, heq⟩ := endSending_cases r t d accepted
  · rw [heq]
    exact .refl
  · have ht' : (r.sent t e h notice accepted).1.tasks[t]? = some ⟨call, .routing errand ds⟩ := by
      rwa [tasks_sent]
    have hs := turns_setDelivery ht' ds d (r.sent t e h notice accepted).2
    rwa [turns_sent, ← heq] at hs

theorem turns_close (r : Registry) (t h : Nat) : (r.close t h).turns = r.turns := by
  unfold close
  split
  · rename_i call handles ht
    split
    · rw [turns_setStage, turns_dispose]
      have hs := turns_of_task ht
      split
      · exact Turns.stand_self hs
      · exact Turns.stand_self hs
    · rfl
  · rfl

theorem turns_step (hf : ∀ t, r.TaskFits t) (action : RegistryAction) :
    Turns.Trace r.turns (r.turnEvents action) (r.step action).turns := by
  cases action with
  | call call =>
    have hc : (r.step (.call call)).turns =
        { r.turns with stages := r.turns.stages ++ [none] } := by
      simp [step, turns, TaskStage.turn?]
    rw [hc]
    exact .single .call
  | resume t => exact turns_resume r t
  | read t result => exact turns_read (hf t) result
  | deliver t d => exact turns_deliver r t d
  | sent t d accepted => exact turns_endSending r t d accepted
  | spawned a outcome =>
    rw [step, turns_spawned]
    exact .refl
  | closed t h =>
    rw [step, turns_close]
    exact .refl
  | exit h =>
    rw [step, turns_exit]
    exact .refl
  | notify h method params =>
    obtain ⟨hub, heq⟩ := receive_eq r h method params
    rw [step, heq]
    exact .refl
  | hub call => exact .refl

theorem turns_run (hr : r.Reachable) (actions : List RegistryAction) :
    Turns.Trace r.turns (r.turnsOf actions) (r.run actions).turns := by
  induction actions generalizing r with
  | nil => exact .refl
  | cons action actions ih => exact (turns_step hr.taskFits action).trans (ih (hr.step action))

end Registry
end Switchyard
