import Switchyard.Proofs.Registry.Deliveries
import Switchyard.Proofs.Registry.Serial
import Switchyard.Proofs.Registry.Share

namespace Switchyard

namespace TaskStage

def isDone : TaskStage → Bool
  | .done _ => true
  | _ => false

end TaskStage

namespace Numbering

variable {r r' s : Registry} {N : Numbering} {t : Nat}

/-- How far a task has come where there is no other server: it may have ended already. -/
inductive Matches (N : Numbering) : TaskStage → TaskStage → Prop
  | begun : Matches N .begun .begun
  | reading {event : DocumentEvent} {path : Path} {uri : String} :
      Matches N (.reading event path uri) (.reading event path uri)
  | routing {errand : Errand} {ds : List Delivery}
      (h : (N.deliveries ds).all (·.stage.isDone) = false) :
      Matches N (.routing errand ds) (.routing errand (N.deliveries ds))
  | routed {errand : Errand} {ds : List Delivery} {result : Except ServerError RegistryReply}
      (h : (N.deliveries ds).all (·.stage.isDone) = true) :
      Matches N (.routing errand ds) (.done result)
  | closing {hs : List Nat} (h : N.handles hs ≠ []) :
    Matches N (.closing hs) (.closing (N.handles hs))
  | closed {hs : List Nat} {result : Except ServerError RegistryReply} (h : N.handles hs = []) :
      Matches N (.closing hs) (.done result)
  | done {result result' : Except ServerError RegistryReply} :
    Matches N (.done result) (.done result')

/-- Tasks have come as far as they do where there is no other server. -/
def TasksMatch (N : Numbering) (tasks tasks' : List Task) : Prop :=
  ∀ t : Nat,
    Option.Rel (fun x y => y.call = x.call ∧ N.Matches x.stage y.stage) tasks[t]? tasks'[t]?

/-- A registry is another one without the servers of the other entries. -/
def Alone (N : Numbering) (r s : Registry) : Prop :=
  ∃ s₀, s = N.only r s₀ ∧ N.TasksMatch r.tasks s₀.tasks

namespace TasksMatch

variable {tasks tasks' : List Task} {task : Task}

theorem of_some (h : N.TasksMatch tasks tasks') (ht : tasks[t]? = some task) :
    ∃ task', tasks'[t]? = some task' ∧ task'.call = task.call ∧
      N.Matches task.stage task'.stage := by
  have hm := h t
  rw [ht] at hm
  cases ht' : tasks'[t]? with
  | none =>
    rw [ht'] at hm
    cases hm
  | some task' =>
    rw [ht'] at hm
    cases hm with
    | some hm => exact ⟨task', rfl, hm⟩

theorem of_none (h : N.TasksMatch tasks tasks') (ht : tasks[t]? = none) : tasks'[t]? = none := by
  have hm := h t
  rw [ht] at hm
  cases ht' : tasks'[t]? with
  | none => rfl
  | some task' =>
    rw [ht'] at hm
    cases hm

theorem modify (h : N.TasksMatch tasks tasks') (t : Nat) {stage stage' : TaskStage}
    (hm : N.Matches stage stage') :
    N.TasksMatch (tasks.modify t ({ · with stage }))
      (tasks'.modify t ({ · with stage := stage' })) := by
  intro u
  rw [List.getElem?_modify, List.getElem?_modify]
  by_cases hu : t = u
  · subst hu
    cases ht : tasks[t]? with
    | none => simp [h.of_none ht]
    | some task =>
      obtain ⟨task', ht', hc, _⟩ := h.of_some ht
      simpa [ht'] using ⟨hc, hm⟩
  · simpa [hu] using h u

/-- A task goes on that has not come any further where there is no other server. -/
theorem modify_left (h : N.TasksMatch tasks tasks') {stage : TaskStage}
    (hm : ∀ task', tasks'[t]? = some task' → N.Matches stage task'.stage) :
    N.TasksMatch (tasks.modify t ({ · with stage })) tasks' := by
  intro u
  rw [List.getElem?_modify]
  by_cases hu : t = u
  · subst hu
    cases ht : tasks[t]? with
    | none => simp [h.of_none ht]
    | some task =>
      obtain ⟨task', ht', hc, _⟩ := h.of_some ht
      simpa [ht'] using ⟨hc, hm task' ht'⟩
  · simpa [hu] using h u

theorem append (h : N.TasksMatch tasks tasks') (call : RegistryCall) :
    N.TasksMatch (tasks ++ [⟨call, .begun⟩]) (tasks' ++ [⟨call, .begun⟩]) := by
  have hl : tasks'.length = tasks.length := by
    apply Nat.le_antisymm
    · exact List.getElem?_eq_none_iff.1 (h.of_none (List.getElem?_eq_none_iff.2 (Nat.le_refl _)))
    · by_contra hlt
      have hlt : tasks'.length < tasks.length := Nat.lt_of_not_le hlt
      obtain ⟨_, ht', _⟩ := h.of_some (List.getElem?_eq_getElem hlt)
      exact Nat.lt_irrefl _ (List.getElem?_eq_some_iff.1 ht').1
  intro u
  rw [List.getElem?_append, List.getElem?_append, hl]
  split
  · exact h u
  · cases u - tasks.length with
    | zero => simpa using .begun
    | succ n => simp

end TasksMatch

theorem tasks_route (r : Registry) (t : Nat) (errand : Errand) (ds : List Delivery) :
    ∃ result, ((r.setStage t (.routing errand ds)).finish t).tasks =
      r.tasks.modify t ({ · with
        stage := if ds.all (·.stage.isDone) then .done result else .routing errand ds }) := by
  cases ht : r.tasks[t]? with
  | none =>
    have hs : (r.setStage t (.routing errand ds)).tasks[t]? = none := by
      simp [Registry.setStage, ht]
    refine ⟨.ok .nothing, ?_⟩
    have hl := List.getElem?_eq_none_iff.1 ht
    rw [Registry.finish, hs, List.modify_eq_self hl]
    exact List.modify_eq_self hl
  | some task =>
    have hs : (r.setStage t (.routing errand ds)).tasks[t]? =
        some ⟨task.call, .routing errand ds⟩ := by
      simp [Registry.setStage, ht]
    rw [Registry.finish, hs]
    dsimp only
    split
    · refine ⟨(r.setStage t (.routing errand ds)).result task.call ds, ?_⟩
      simp only [Registry.setStage, Registry.tasks_unlock, List.modify_modify_eq]
      rfl
    · exact ⟨.ok .nothing, rfl⟩

theorem deliveries_set {ds : List Delivery} {d : Nat} {x : Delivery} (hd : ds[d]? = some x)
    (he : x.entry = N.entry) (stage : DeliveryStage) :
    N.deliveries (ds.modify d ({ · with stage })) =
      (N.deliveries ds).modify (ds.countPBefore (·.entry == N.entry) d)
        ({ · with stage := N.ofStage stage }) := by
  have hp (x : Delivery) (hx : x.entry = N.entry) : (x.entry == N.entry) = true :=
    beq_iff_eq.2 hx
  have hx := getElem?_filter_countPBefore (p := (·.entry == N.entry)) hd (hp x he)
  have hset := filter_set_of_pos (p := (·.entry == N.entry)) hd (hp x he)
    (hp { x with stage } he)
  have hx' : (N.deliveries ds)[ds.countPBefore (·.entry == N.entry) d]? =
      some (N.ofDelivery x) := by
    simp only [deliveries, List.getElem?_map, hx, Option.map_some]
  rw [modify_of_getElem? hd, modify_of_getElem? hx', deliveries, hset, List.map_set]
  rfl

theorem getElem?_deliveries {ds : List Delivery} {d : Nat} {x : Delivery} (hd : ds[d]? = some x)
    (he : x.entry = N.entry) :
    (N.deliveries ds)[ds.countPBefore (·.entry == N.entry) d]? = some (N.ofDelivery x) := by
  have hx := getElem?_filter_countPBefore (p := (·.entry == N.entry)) hd (beq_iff_eq.2 he)
  simp only [deliveries, List.getElem?_map, hx, Option.map_some]

theorem deliveries_set_other {ds : List Delivery} {d : Nat} {x : Delivery} (hd : ds[d]? = some x)
    (hne : x.entry ≠ N.entry) (stage : DeliveryStage) :
    N.deliveries (ds.modify d ({ · with stage })) = N.deliveries ds := by
  have hp (x : Delivery) (hx : x.entry ≠ N.entry) : (x.entry == N.entry) = false :=
    beq_eq_false_iff_ne.2 hx
  have hset := filter_set_of_neg (p := (·.entry == N.entry)) hd (hp x hne)
    (hp { x with stage } hne)
  rw [modify_of_getElem? hd, deliveries, hset, deliveries]

theorem only_finish (t : Nat) : N.only (r.finish t) s = N.only r s := by
  unfold Registry.finish
  split
  · split
    · rename_i errand _ _ _
      cases errand <;> rfl
    · rfl
  · rfl

theorem only_route (t : Nat) (errand : Errand) (ds : List Delivery) :
    N.only ((r.setStage t (.routing errand ds)).finish t) s = N.only r s :=
  only_finish (r := r.setStage t (.routing errand ds)) t

theorem finish_only (t : Nat) : (N.only r s).finish t = N.only r ((N.only r s).finish t) := by
  unfold Registry.finish
  split
  · split
    · rename_i errand _ _ _
      cases errand <;> rfl
    · rfl
  · rfl

theorem all_isDone_deliveries {ds : List Delivery} (h : ds.all (·.stage.isDone) = true) :
    (N.deliveries ds).all (·.stage.isDone) = true := by
  apply List.all_eq_true.2
  intro x hx
  obtain ⟨y, hy, rfl⟩ := List.mem_map.1 hx
  have hdone := List.all_eq_true.1 h y (List.mem_filter.1 hy).1
  simp only [ofDelivery]
  cases hs : y.stage with
  | done outcome => rfl
  | _ => simp [hs, DeliveryStage.isDone] at hdone

theorem matches_route (N : Numbering) (errand : Errand) (ds : List Delivery)
    (result result' : Except ServerError RegistryReply) :
    N.Matches (if ds.all (·.stage.isDone) then .done result else .routing errand ds)
      (if (N.deliveries ds).all (·.stage.isDone) then .done result'
        else .routing errand (N.deliveries ds)) := by
  by_cases ho : (N.deliveries ds).all (·.stage.isDone) = true
  · rw [if_pos ho]
    split
    · exact .done
    · exact .routed ho
  · have hn : ¬ ds.all (·.stage.isDone) = true := fun h => ho (all_isDone_deliveries h)
    rw [if_neg ho, if_neg hn]
    exact .routing (eq_false_of_ne_true ho)

theorem matches_closing (N : Numbering) (hs : List Nat) :
    N.Matches (if hs.isEmpty then .done (.ok .nothing) else .closing hs)
      (if (N.handles hs).isEmpty then .done (.ok .nothing) else .closing (N.handles hs)) := by
  cases hs with
  | nil => exact .done
  | cons h hs =>
    rw [if_neg (by simp)]
    split
    · rename_i hn
      exact .closed (List.isEmpty_iff.1 hn)
    · rename_i hn
      exact .closing fun heq => hn (List.isEmpty_iff.2 heq)

namespace Alone

theorem of_same (h : N.Alone r s) (ht : r'.tasks = r.tasks)
    (ho : ∀ s, N.only r' s = N.only r s) : N.Alone r' s := by
  obtain ⟨s₀, rfl, hm⟩ := h
  exact ⟨s₀, (ho s₀).symm, ht ▸ hm⟩

theorem setStage (h : N.Alone r s) (t : Nat) {stage stage' : TaskStage}
    (hm : N.Matches stage stage') : N.Alone (r.setStage t stage) (s.setStage t stage') := by
  obtain ⟨s₀, rfl, ht⟩ := h
  exact ⟨s₀.setStage t stage', rfl, ht.modify t hm⟩

theorem done (h : N.Alone r s) (t : Nat) (result result' : Except ServerError RegistryReply) :
    N.Alone (r.setStage t (.done result)) (s.setStage t (.done result')) :=
  h.setStage t .done

theorem route (h : N.Alone r s) (t : Nat) (errand : Errand) (ds : List Delivery) :
    N.Alone ((r.setStage t (.routing errand ds)).finish t)
      ((s.setStage t (.routing errand (N.deliveries ds))).finish t) := by
  obtain ⟨s₀, rfl, ht⟩ := h
  obtain ⟨result, hr⟩ := tasks_route r t errand ds
  obtain ⟨result', hs⟩ := tasks_route (N.only r s₀) t errand (N.deliveries ds)
  have hf : ((N.only r s₀).setStage t (.routing errand (N.deliveries ds))).finish t =
      N.only r (((N.only r s₀).setStage t (.routing errand (N.deliveries ds))).finish t) :=
    finish_only (r := r) (s := s₀.setStage t (.routing errand (N.deliveries ds))) t
  refine ⟨_, hf.trans (only_route t errand ds).symm, ?_⟩
  rw [hr, hs]
  exact ht.modify t (matches_route N errand ds result result')

theorem setDelivery (h : N.Alone r s) (t : Nat) (errand : Errand) {ds : List Delivery} {d : Nat}
    {x : Delivery} (hd : ds[d]? = some x) (he : x.entry = N.entry) (stage : DeliveryStage) :
    N.Alone (r.setDelivery t errand ds d stage)
      (s.setDelivery t errand (N.deliveries ds) (ds.countPBefore (·.entry == N.entry) d)
        (N.ofStage stage)) := by
  unfold Registry.setDelivery
  rw [← deliveries_set hd he]
  exact h.route t errand _

/-- A task goes on in a way that is not seen where there is no other server. -/
theorem setDelivery_unseen (h : N.Alone r s) {call : RegistryCall} {errand : Errand}
    {ds : List Delivery} (ht : r.tasks[t]? = some ⟨call, .routing errand ds⟩) {d : Nat}
    {stage : DeliveryStage}
    (hs : N.deliveries (ds.modify d ({ · with stage })) = N.deliveries ds) :
    N.Alone (r.setDelivery t errand ds d stage) s := by
  obtain ⟨s₀, rfl, hm⟩ := h
  obtain ⟨result, hr⟩ := tasks_route r t errand (ds.modify d ({ · with stage }))
  refine ⟨s₀, (only_route t errand _).symm, ?_⟩
  unfold Registry.setDelivery
  rw [hr]
  refine hm.modify_left fun task' ht' => ?_
  obtain ⟨_, ht'', _, hmatch⟩ := hm.of_some ht
  cases ht'.symm.trans ht''
  have hroute (result' : Except ServerError RegistryReply) :=
    matches_route N errand (ds.modify d ({ · with stage })) result result'
  rw [hs] at hroute
  obtain ⟨call', stage'⟩ := task'
  cases hmatch with
  | routing hall =>
    have hm := hroute result
    rwa [hall, if_neg Bool.false_ne_true] at hm
  | @routed _ _ result' hall =>
    have hm := hroute result'
    rwa [hall, if_pos rfl] at hm

end Alone

theorem isIdle_ofEntry (x : Entry) : (N.ofEntry x).isIdle = x.isIdle := by
  have hs : (N.ofEntry x).slot.state = N.ofState x.slot.state := rfl
  have hu : (N.ofEntry x).slot.unusable = x.slot.unusable := rfl
  rw [Entry.isIdle, Entry.isIdle, hs, hu]
  cases x.slot.state <;> rfl

theorem deliveries_entriesWhere {p : Entry → Bool} (hp : ∀ x, p (N.ofEntry x) = p x) :
    N.deliveries ((r.entriesWhere p).map fun e => ⟨e, .begun⟩) =
      ((N.only r s).entriesWhere p).map fun e => ⟨e, .begun⟩ := by
  have hl : ((r.entriesWhere p).map fun e => (⟨e, .begun⟩ : Delivery)).filter
      (·.entry == N.entry) =
      ((r.entriesWhere p).filter (· == N.entry)).map fun e => ⟨e, .begun⟩ := by
    simp [List.filter_map, Function.comp_def]
  have hnodup : (r.entriesWhere p).Nodup := List.Nodup.filter _ List.nodup_range
  rw [deliveries, hl, List.filter_beq, hnodup.count]
  cases he : r.entries[N.entry]? with
  | none =>
    have hm : N.entry ∉ r.entriesWhere p := by simp [Registry.entriesWhere, he]
    have hs : (N.only r s).entriesWhere p = [] := by simp [Registry.entriesWhere, only, he]
    simp [hm, hs]
  | some x =>
    have hlt := (List.getElem?_eq_some_iff.1 he).1
    have hm : N.entry ∈ r.entriesWhere p ↔ p x = true := by
      obtain ⟨_, rfl⟩ := List.getElem?_eq_some_iff.1 he
      simp [Registry.entriesWhere, hlt]
    have hs : (N.only r s).entriesWhere p = if p x then [0] else [] := by
      simp [Registry.entriesWhere, only, he, hp, List.filter_cons]
    by_cases hpx : p x = true
    · simp [hm, hs, hpx, ofDelivery, ofStage]
    · simp [hm, hs, hpx]

namespace Alone

theorem root (h : N.Alone r s) : s.root = r.root := by
  obtain ⟨s₀, rfl, _⟩ := h
  rfl

theorem resolve (h : N.Alone r s) (file : Path) : s.resolve file = r.resolve file := by
  rw [Registry.resolve, Registry.resolve, h.root]

theorem watch (h : N.Alone r s) : s.watch = r.watch := by
  obtain ⟨s₀, rfl, _⟩ := h
  rfl

theorem commandExists (h : N.Alone r s) : s.commandExists = r.commandExists := by
  obtain ⟨s₀, rfl, _⟩ := h
  rfl

theorem versions (h : N.Alone r s) : s.versions = r.versions := by
  obtain ⟨s₀, rfl, _⟩ := h
  rfl

theorem entries (h : N.Alone r s) : s.entries = (r.entries[N.entry]?).toList.map N.ofEntry := by
  obtain ⟨s₀, rfl, _⟩ := h
  rfl

theorem routeWhere (h : N.Alone r s) (t : Nat) (errand : Errand) {p : Entry → Bool}
    (hp : ∀ x, p (N.ofEntry x) = p x) :
    N.Alone ((r.routeTo t errand (r.entriesWhere p)).finish t)
      ((s.routeTo t errand (s.entriesWhere p)).finish t) := by
  have hroute := h.route t errand ((r.entriesWhere p).map fun e => ⟨e, .begun⟩)
  obtain ⟨s₀, rfl, _⟩ := h
  rwa [deliveries_entriesWhere (s := s₀) hp] at hroute

theorem matching (h : N.Alone r s) (t : Nat) (errand : Errand) (path : Path) :
    N.Alone ((r.routeTo t errand (r.matching path)).finish t)
      ((s.routeTo t errand (s.matching path)).finish t) := by
  unfold Registry.matching
  rw [h.root]
  exact h.routeWhere t errand fun _ => rfl

theorem setVersion (h : N.Alone r s) (uri : String) (version : Int32) :
    N.Alone (r.setVersion uri version) (s.setVersion uri version) := by
  obtain ⟨s₀, rfl, hm⟩ := h
  exact ⟨s₀, rfl, hm⟩

theorem dropVersion (h : N.Alone r s) (uri : String) :
    N.Alone (r.dropVersion uri) (s.dropVersion uri) := by
  obtain ⟨s₀, rfl, hm⟩ := h
  exact ⟨s₀, rfl, hm⟩

theorem unlock (h : N.Alone r s) (t : Nat) (errand : Errand) :
    N.Alone (r.unlock t errand) (s.unlock t errand) := by
  obtain ⟨s₀, rfl, hm⟩ := h
  refine ⟨s₀.unlock t errand, ?_, ?_⟩
  · cases errand <;> rfl
  · rwa [Registry.tasks_unlock, Registry.tasks_unlock]

theorem requestLock (h : N.Alone r s) (t : Nat) (uri : String) :
    N.Alone (r.requestLock t uri) (s.requestLock t uri) := by
  obtain ⟨s₀, rfl, hm⟩ := h
  exact ⟨s₀.requestLock t uri, rfl, hm⟩

theorem holdLock (h : N.Alone r s) (t : Nat) (event : DocumentEvent) (path : Path)
    (uri : String) : N.Alone (r.holdLock t event path uri) (s.holdLock t event path uri) := by
  cases event with
  | closed => exact (h.dropVersion uri).matching t (.closing uri) path
  | _ => exact h.setStage t .reading

theorem beginDocument (h : N.Alone r s) (t : Nat) (event : DocumentEvent) (file : Path)
    (hl : ∀ uri, (r.requestLock t uri).hasLock t = true ∧ (s.requestLock t uri).hasLock t = true) :
    N.Alone (r.beginDocument t event file) (s.beginDocument t event file) := by
  simp only [Registry.beginDocument, h.resolve]
  split
  · exact h.done t _ _
  · rename_i uri _
    rw [if_pos (hl uri).1, if_pos (hl uri).2]
    exact (h.requestLock t uri).holdLock t event _ uri

theorem findIdx?_other (h : N.Alone r s) {id : String} (hn : r.isEntry id N.entry = false) :
    s.entries.findIdx? (·.config.id == id) = none := by
  rw [h.entries]
  unfold Registry.isEntry at hn
  cases he : r.entries[N.entry]? with
  | none => rfl
  | some x =>
    rw [he, Option.any_some] at hn
    have hid : ((N.ofEntry x).config.id == id) = false := hn
    simp [List.findIdx?_cons, hid]

theorem start (h : N.Alone r s) (hr : r.Reachable) (t : Nat) (id : String) :
    N.Alone (r.begin t (.start id)) (s.begin t (.start id)) := by
  cases hi : r.entries.findIdx? (·.config.id == id) with
  | none =>
    have hn : r.isEntry id N.entry = false := by
      unfold Registry.isEntry
      cases he : r.entries[N.entry]? with
      | none => rfl
      | some x => exact List.findIdx?_eq_none_iff.1 hi x (List.mem_of_getElem? he)
    simp only [Registry.begin, hi, h.findIdx?_other hn]
    exact h.done t _ _
  | some e =>
    have hid := Registry.isEntry_of_findIdx? hi
    by_cases hne : e = N.entry
    · subst hne
      unfold Registry.isEntry at hid
      obtain ⟨x, he, hx⟩ := (Option.any_eq_true _ _).1 hid
      have hid' : ((N.ofEntry x).config.id == id) = true := hx
      have hi' : s.entries.findIdx? (·.config.id == id) = some 0 := by
        simp [h.entries, he, List.findIdx?_cons, hid']
      have hd : N.deliveries [⟨N.entry, .begun⟩] = [⟨0, .begun⟩] := by
        simp [deliveries, ofDelivery, ofStage]
      have hm : N.Matches (.routing .start [⟨N.entry, .begun⟩])
          (.routing .start (N.deliveries [⟨N.entry, .begun⟩])) := .routing (by rw [hd]; rfl)
      rw [hd] at hm
      simp only [Registry.begin, hi, hi']
      exact h.setStage t hm
    · have hn : r.isEntry id N.entry = false := by
        obtain ⟨x, he, hx⟩ := (Option.any_eq_true _ _).1 hid
        rw [← beq_iff_eq.1 hx, Registry.isEntry_eq hr he]
        exact beq_eq_false_iff_ne.2 (Ne.symm hne)
      have hd : N.deliveries [⟨e, .begun⟩] = [] := by simp [deliveries, hne]
      simp only [Registry.begin, hi, h.findIdx?_other hn]
      exact h.setStage t (.routed (by simp [hd]))

theorem shutdownAll (h : N.Alone r s) (hr : r.Reachable) (hf : N.Fits r) (t : Nat) :
    N.Alone (r.begin t .shutdownAll) (s.begin t .shutdownAll) := by
  obtain ⟨s₀, rfl, ht⟩ := h
  have htake : N.Alone (r.takeAll).1 ((N.only r s₀).takeAll).1 := by
    refine ⟨s₀, ?_, ?_⟩
    · rw [only_takeAll hf hr.sound]
    · rwa [Registry.takeAll_eq]
  have hs : ((N.only r s₀).takeAll).2 = N.handles (r.takeAll).2 := by rw [only_takeAll hf hr.sound]
  simp only [Registry.begin, hs]
  exact htake.setStage t (matches_closing N _)

theorem begin (h : N.Alone r s) (hr : r.Reachable) (hf : N.Fits r) (t : Nat) (call : RegistryCall)
    (hl : ∀ uri, (r.requestLock t uri).hasLock t = true ∧ (s.requestLock t uri).hasLock t = true) :
    N.Alone (r.begin t call) (s.begin t call) := by
  cases call with
  | document event file => exact h.beginDocument t event file hl
  | watched event file =>
    simp only [Registry.begin, h.watch]
    split
    · exact h.beginDocument t event file hl
    · split
      · exact h.setStage t .begun
      · exact h.done t _ _
  | start id => exact h.start hr t id
  | route file method params =>
    simp only [Registry.begin, h.resolve]
    exact h.matching t _ _
  | prewarm dryRun languages =>
    simp only [Registry.begin]
    split
    · exact h.done t _ _
    · simp only [Registry.candidates, h.commandExists]
      refine h.routeWhere t _ fun x => ?_
      rw [isIdle_ofEntry]
      rfl
  | shutdownAll => exact h.shutdownAll hr hf t

theorem read (h : N.Alone r s) (t : Nat) (result : Except FileError String) {call : RegistryCall}
    {event : DocumentEvent} {path : Path} {uri : String}
    (ht : r.tasks[t]? = some ⟨call, .reading event path uri⟩) :
    N.Alone (r.read t result) (s.read t result) := by
  have hv : s.nextVersion uri = r.nextVersion uri := by
    rw [Registry.nextVersion, Registry.nextVersion, h.versions]
  have ht' : s.tasks[t]? = some ⟨call, .reading event path uri⟩ := by
    obtain ⟨s₀, rfl, hm⟩ := h
    obtain ⟨⟨call', stage'⟩, ht', hc, hmatch⟩ := hm.of_some ht
    cases hc
    cases hmatch
    exact ht'
  cases result with
  | error e =>
    simp only [Registry.read, ht, ht']
    exact (h.unlock t (.closing uri)).done t _ _
  | ok text =>
    simp only [Registry.read, ht, ht', hv]
    exact (h.setVersion uri _).matching t _ path

end Alone

end Numbering

namespace Registry

variable {r r' s : Registry} {N : Numbering} {t e : Nat}

def Unfinished (r : Registry) (t : Nat) : Prop :=
  ∃ task, r.tasks[t]? = some task ∧ task.stage.isDone = false

def OneAtATime (r : Registry) : Prop := ∀ t u, r.Unfinished t → r.Unfinished u → t = u

theorem OneAtATime.hasLock {call : RegistryCall} (ho : r.OneAtATime) (hr : r.Reachable)
    (ht : r.tasks[t]? = some ⟨call, .begun⟩) (uri : String) :
    (r.requestLock t uri).hasLock t = true := by
  refine hasLock_of_nobody hr ht rfl (List.eq_nil_iff_forall_not_mem.2 fun u hu => ?_)
  obtain ⟨stage, hs⟩ := hr.turnsFit.wants.1 hu
  simp only [turns, List.getElem?_map] at hs
  obtain ⟨task, hu', hstage⟩ := Option.map_eq_some_iff.1 hs
  have hut : u = t := by
    refine ho u t ⟨task, hu', ?_⟩ ⟨_, ht, rfl⟩
    cases hd : task.stage with
    | done result =>
      rw [hd] at hstage
      cases hstage
    | _ => rfl
  subst hut
  cases ht.symm.trans hu'
  cases hstage

/-- A delivery is about to ask for its server, or what it waits for has come out. -/
def canGoOn (r : Registry) : DeliveryStage → Bool
  | .begun => true
  | .starting a => (r.outcome? a).isSome
  | _ => false

/-- What an action is where there is no server but that of an entry. -/
def aloneAction? (r : Registry) (e : Nat) : RegistryAction → Option RegistryAction
  | .call call => some (.call call)
  | .resume t =>
    match r.tasks[t]? with
    | some ⟨_, .begun⟩ => some (.resume t)
    | _ => none
  | .read t result =>
    match r.tasks[t]? with
    | some ⟨_, .reading _ _ _⟩ => some (.read t result)
    | _ => none
  | .deliver t d =>
    match r.tasks[t]? with
    | some ⟨_, .routing _ ds⟩ =>
      match ds[d]? with
      | some x =>
        if x.entry == e && r.canGoOn x.stage then
          some (.deliver t (ds.countPBefore (·.entry == e) d))
        else none
      | none => none
    | _ => none
  | .sent t d accepted =>
    match r.tasks[t]? with
    | some ⟨_, .routing _ ds⟩ =>
      match ds[d]? with
      | some ⟨e', .sending _ _⟩ =>
        if e' == e then some (.sent t (ds.countPBefore (·.entry == e) d) accepted) else none
      | _ => none
    | _ => none
  | .spawned a outcome =>
    match r.attempts[a]? with
    | some ⟨e', _, none⟩ =>
      if e' == e then some (.spawned ((r.numbering e).attempt a) outcome) else none
    | _ => none
  | .closed t h =>
    match r.tasks[t]? with
    | some ⟨_, .closing hs⟩ =>
      if hs.contains h && (r.numbering e).owns h then some (.closed t ((r.numbering e).handle h))
      else none
    | _ => none
  | .exit h => if (r.numbering e).owns h then some (.exit ((r.numbering e).handle h)) else none
  | .notify _ _ _ | .hub _ => none

end Registry

namespace Numbering

variable {r r' s : Registry} {N : Numbering} {t : Nat}

theorem advance_of_not_canGoOn {errand : Errand} {x : Delivery} {entry : Entry}
    (hg : r.canGoOn x.stage = false) : r.advance errand x entry = (r, x.stage) := by
  obtain ⟨e, stage⟩ := x
  cases stage with
  | begun => cases hg
  | starting a =>
    have ho : r.outcome? a = none := Option.isSome_eq_false_iff.1 hg |> Option.isNone_iff_eq_none.1
    unfold Registry.outcome? at ho
    simp only [Registry.advance, ho]
  | _ => rfl

theorem modify_same {ds : List Delivery} {d : Nat} {x : Delivery} (hd : ds[d]? = some x) :
    ds.modify d ({ · with stage := x.stage }) = ds := by
  obtain ⟨hl, rfl⟩ := List.getElem?_eq_some_iff.1 hd
  rw [modify_of_getElem? hd]
  exact List.set_getElem_self hl

theorem not_all_isDone {ds : List Delivery} {d : Nat} {x : Delivery} (hd : ds[d]? = some x)
    (hn : x.stage.isDone = false) : ds.all (·.stage.isDone) = false := by
  apply eq_false_of_ne_true
  intro hall
  cases hn.symm.trans (List.all_eq_true.1 hall x (List.mem_of_getElem? hd))

theorem Fits.handle_inj (hf : N.Fits r) {h i : Nat} {x y : Handle} (hx : r.handles[h]? = some x)
    (hy : r.handles[i]? = some y) (he : x.entry = N.entry) (he' : y.entry = N.entry)
    (heq : N.handle h = N.handle i) : h = i := by
  have hl := (List.getElem?_eq_some_iff.1 hx).1
  have hl' := (List.getElem?_eq_some_iff.1 hy).1
  rw [hf.handle (Nat.le_of_lt hl), hf.handle (Nat.le_of_lt hl')] at heq
  exact countPBefore_inj (p := (·.entry == N.entry)) hx (beq_iff_eq.2 he) hy (beq_iff_eq.2 he') heq

theorem handles_filter (hf : N.Fits r) (hi : r.servers.Sound) {hs : List Nat} {i : Nat}
    (ht : r.servers.closing[t]? = some hs) (hm : i ∈ hs) (ho : N.owns i = true) :
    N.handles (hs.filter (· != i)) = (N.handles hs).filter (· != N.handle i) := by
  have hinj (h : Nat) (hh : h ∈ hs) (hown : N.owns h = true) :
      (h != i) = (N.handle h != N.handle i) := by
    obtain ⟨x, _, hx, _⟩ := hi.closing ht hh
    obtain ⟨y, _, hy, _⟩ := hi.closing ht hm
    have he : x.entry = N.entry := beq_iff_eq.1 ((hf.owns hx).symm.trans hown)
    have he' : y.entry = N.entry := beq_iff_eq.1 ((hf.owns hy).symm.trans ho)
    by_cases heq : h = i
    · simp [heq]
    · have hne : N.handle h ≠ N.handle i := fun h' => heq (hf.handle_inj hx hy he he' h')
      exact (bne_iff_ne.2 heq).trans (bne_iff_ne.2 hne).symm
  rw [handles, handles, List.filter_map, List.filter_filter, List.filter_filter]
  congr 1
  apply List.filter_congr
  intro h hh
  cases hown : N.owns h with
  | false => simp
  | true => simp [hinj h hh hown]

theorem handles_filter_other {i : Nat} (ho : N.owns i = false) (hs : List Nat) :
    N.handles (hs.filter (· != i)) = N.handles hs := by
  rw [handles, handles, List.filter_filter]
  congr 1
  apply List.filter_congr
  intro h _
  by_cases heq : h = i
  · simp [heq, ho]
  · simp [heq]

theorem TasksMatch.routing {tasks tasks' : List Task} {call : RegistryCall} {errand : Errand}
    {ds : List Delivery} {d : Nat} {x : Delivery} (h : N.TasksMatch tasks tasks')
    (ht : tasks[t]? = some ⟨call, .routing errand ds⟩) (hd : ds[d]? = some x)
    (he : x.entry = N.entry) (hn : (N.ofStage x.stage).isDone = false) :
    tasks'[t]? = some ⟨call, .routing errand (N.deliveries ds)⟩ := by
  obtain ⟨⟨call', stage'⟩, ht', hc, hmatch⟩ := h.of_some ht
  cases hc
  have hall := not_all_isDone (getElem?_deliveries hd he) hn
  cases hmatch with
  | routing => exact ht'
  | routed hdone => cases hall.symm.trans hdone

theorem TasksMatch.closing {tasks tasks' : List Task} {call : RegistryCall} {hs : List Nat}
    (h : N.TasksMatch tasks tasks') (ht : tasks[t]? = some ⟨call, .closing hs⟩)
    (hn : N.handles hs ≠ []) : tasks'[t]? = some ⟨call, .closing (N.handles hs)⟩ := by
  obtain ⟨⟨call', stage'⟩, ht', hc, hmatch⟩ := h.of_some ht
  cases hc
  cases hmatch with
  | closing => exact ht'
  | closed hnil => exact absurd hnil hn

namespace Alone

theorem deliver (h : N.Alone r s) (hr : r.Reachable) (hf : N.Fits r) (t d : Nat) :
    N.Alone (r.deliver t d) (s.run (r.aloneAction? N.entry (.deliver t d)).toList) := by
  cases ht : r.tasks[t]? with
  | none => simpa [Registry.deliver, Registry.aloneAction?, Registry.run, ht] using h
  | some task =>
    obtain ⟨call, stage⟩ := task
    cases stage with
    | routing errand ds =>
      cases hd : ds[d]? with
      | none => simpa [Registry.deliver, Registry.aloneAction?, Registry.run, ht, hd] using h
      | some x =>
        obtain ⟨_, hfit, _⟩ := hr.taskFits t _ ht
        have hx := hfit x (List.mem_of_getElem? hd)
        have hlt : x.entry < r.entries.length := by
          have hs := (hr.inOrder t call errand ds ht).subset
            (List.mem_map.2 ⟨x, List.mem_of_getElem? hd, rfl⟩)
          exact List.mem_range.1 hs
        have hent := List.getElem?_eq_getElem hlt
        generalize r.entries[x.entry] = entry at hent
        have htasks := Registry.tasks_advance r errand x entry
        have hdeliver : r.deliver t d = (r.advance errand x entry).1.setDelivery t errand ds d
            (r.advance errand x entry).2 := Registry.deliver_eq ht hd hent
        rw [hdeliver]
        by_cases he : x.entry = N.entry
        · by_cases hg : r.canGoOn x.stage = true
          · have ha : r.aloneAction? N.entry (.deliver t d) =
                some (.deliver t (ds.countPBefore (·.entry == N.entry) d)) := by
              simp [Registry.aloneAction?, ht, hd, he, hg]
            obtain ⟨s₀, rfl, hm⟩ := h
            have hn : (N.ofStage x.stage).isDone = false := by
              cases hs : x.stage <;> simp_all [Registry.canGoOn, ofStage, DeliveryStage.isDone]
            have ht' : (N.only r s₀).tasks[t]? = some ⟨call, .routing errand (N.deliveries ds)⟩ :=
              hm.routing ht hd he hn
            have hd' := getElem?_deliveries hd he
            have hent' := entry_only (s := s₀) (he ▸ hent)
            have hz : (N.ofDelivery x).entry = 0 := rfl
            have h' : N.Alone (r.advance errand x entry).1
                (N.only (r.advance errand x entry).1 s₀) :=
              ⟨s₀, rfl, htasks ▸ hm⟩
            have hs := h'.setDelivery t errand hd he (r.advance errand x entry).2
            rw [ha]
            simp only [Option.toList_some, Registry.run, List.foldl_cons, List.foldl_nil,
              Registry.step, Registry.deliver, ht', hd', hz, hent', only_advance hf hx he]
            exact hs
          · have ha : r.aloneAction? N.entry (.deliver t d) = none := by
              simp [Registry.aloneAction?, ht, hd, hg]
            rw [ha, advance_of_not_canGoOn (eq_false_of_ne_true hg)]
            exact h.setDelivery_unseen ht (congrArg N.deliveries (modify_same hd))
        · have ha : r.aloneAction? N.entry (.deliver t d) = none := by
            simp [Registry.aloneAction?, ht, hd, he]
          rw [ha]
          have h' : N.Alone (r.advance errand x entry).1 s :=
            h.of_same htasks fun _ => only_advance_other errand entry he
          exact h'.setDelivery_unseen (htasks ▸ ht) (deliveries_set_other hd he _)
    | _ => simpa [Registry.deliver, Registry.aloneAction?, Registry.run, ht] using h

theorem endSending (h : N.Alone r s) (hr : r.Reachable) (hf : N.Fits r) (t d : Nat)
    (accepted : Bool) : N.Alone (r.endSending t d accepted)
      (s.run (r.aloneAction? N.entry (.sent t d accepted)).toList) := by
  cases ht : r.tasks[t]? with
  | none => simpa [Registry.endSending, Registry.aloneAction?, Registry.run, ht] using h
  | some task =>
    obtain ⟨call, stage⟩ := task
    cases stage with
    | routing errand ds =>
      cases hd : ds[d]? with
      | none => simpa [Registry.endSending, Registry.aloneAction?, Registry.run, ht, hd] using h
      | some x =>
        obtain ⟨e, stage⟩ := x
        cases stage with
        | sending i notice =>
          obtain ⟨_, hfit, _⟩ := hr.taskFits t _ ht
          obtain ⟨_, hserves⟩ := hfit _ (List.mem_of_getElem? hd)
          have htasks := Registry.tasks_sent r t e i notice accepted
          have hsent : r.endSending t d accepted = (r.sent t e i notice accepted).1.setDelivery t
              errand ds d (r.sent t e i notice accepted).2 := by
            simp only [Registry.endSending, ht, hd]
          rw [hsent]
          by_cases he : e = N.entry
          · subst he
            have ha : r.aloneAction? N.entry (.sent t d accepted) =
                some (.sent t (ds.countPBefore (·.entry == N.entry) d) accepted) := by
              simp [Registry.aloneAction?, ht, hd]
            obtain ⟨s₀, rfl, hm⟩ := h
            have ht' : (N.only r s₀).tasks[t]? = some ⟨call, .routing errand (N.deliveries ds)⟩ :=
              hm.routing ht hd rfl rfl
            have hd' := getElem?_deliveries hd rfl
            have h' : N.Alone (r.sent t N.entry i notice accepted).1
                (N.only (r.sent t N.entry i notice accepted).1 s₀) := ⟨s₀, rfl, htasks ▸ hm⟩
            have hs := h'.setDelivery t errand hd rfl (r.sent t N.entry i notice accepted).2
            rw [ha]
            simp only [Option.toList_some, Registry.run, List.foldl_cons, List.foldl_nil,
              Registry.step, Registry.endSending, ht', hd', ofDelivery, ofStage,
              only_sent hf hserves]
            exact hs
          · have ha : r.aloneAction? N.entry (.sent t d accepted) = none := by
              simp [Registry.aloneAction?, ht, hd, he]
            rw [ha]
            have h' : N.Alone (r.sent t e i notice accepted).1 s :=
              h.of_same htasks fun _ => only_sent_other hf hserves he t notice accepted
            exact h'.setDelivery_unseen (htasks ▸ ht) (deliveries_set_other hd he _)
        | _ => simpa [Registry.endSending, Registry.aloneAction?, Registry.run, ht, hd] using h
    | _ => simpa [Registry.endSending, Registry.aloneAction?, Registry.run, ht] using h

theorem exit (h : N.Alone r s) (hr : r.Reachable) (hf : N.Fits r) (i : Nat) :
    N.Alone (r.exit i) (s.run (r.aloneAction? N.entry (.exit i)).toList) := by
  cases hi : r.handles[i]? with
  | none =>
    simpa [Registry.exit, Registry.aloneAction?, Registry.run, Registry.numbering, hi] using h
  | some handle =>
    have hl := (List.getElem?_eq_some_iff.1 hi).1
    by_cases he : handle.entry = N.entry
    · have ha : r.aloneAction? N.entry (.exit i) = some (.exit (N.handle i)) := by
        simp [Registry.aloneAction?, Registry.numbering, hi, he, hf.handle (Nat.le_of_lt hl)]
      obtain ⟨s₀, rfl, hm⟩ := h
      rw [ha]
      exact ⟨s₀, (only_exit hf hr.sound hi he).symm, by rwa [Registry.tasks_exit]⟩
    · have ha : r.aloneAction? N.entry (.exit i) = none := by
        simp [Registry.aloneAction?, Registry.numbering, hi, he]
      rw [ha]
      exact h.of_same (Registry.tasks_exit r i) fun _ => only_exit_other hf hr.sound hi he

theorem closeOwn (h : N.Alone r s) (hf : N.Fits r) (hi : r.servers.Sound) {call : RegistryCall}
    {hs : List Nat} {i : Nat} {handle : Handle} (ht : r.tasks[t]? = some ⟨call, .closing hs⟩)
    (hm : i ∈ hs) (hh : r.handles[i]? = some handle) (he : handle.entry = N.entry) :
    N.Alone (r.close t i) (s.close t (N.handle i)) := by
  have hc : hs.contains i = true := List.contains_iff_mem.2 hm
  have hown : N.owns i = true := (hf.owns hh).trans (beq_iff_eq.2 he)
  have hm' : N.handle i ∈ N.handles hs := List.mem_map.2 ⟨i, List.mem_filter.2 ⟨hm, hown⟩, rfl⟩
  have hc' : (N.handles hs).contains (N.handle i) = true := List.contains_iff_mem.2 hm'
  have hclosing : r.servers.closing[t]? = some hs := by
    simp [Registry.servers, ht, TaskStage.closingHandles]
  have hmatch := matches_closing N (hs.filter (· != i))
  rw [handles_filter hf hi hclosing hm hown] at hmatch
  obtain ⟨s₀, rfl, htasks⟩ := h
  have ht' : (N.only r s₀).tasks[t]? = some ⟨call, .closing (N.handles hs)⟩ :=
    htasks.closing ht (List.ne_nil_of_mem hm')
  have hd : N.Alone (r.dispose i) ((N.only r s₀).dispose (N.handle i)) :=
    ⟨s₀, (only_dispose hf hh he).symm, by rwa [Registry.tasks_dispose]⟩
  simp only [Registry.close, ht, hc, ht', hc', if_true]
  exact hd.setStage t hmatch

theorem closeOther (h : N.Alone r s) (hf : N.Fits r) {call : RegistryCall} {hs : List Nat}
    {i : Nat} {handle : Handle} (ht : r.tasks[t]? = some ⟨call, .closing hs⟩) (hm : i ∈ hs)
    (hh : r.handles[i]? = some handle) (hne : handle.entry ≠ N.entry) :
    N.Alone (r.close t i) s := by
  have hc : hs.contains i = true := List.contains_iff_mem.2 hm
  have hown : N.owns i = false := (hf.owns hh).trans (beq_eq_false_iff_ne.2 hne)
  have hfilter := handles_filter_other hown hs
  have hd : N.Alone (r.dispose i) s :=
    h.of_same (Registry.tasks_dispose r i) fun _ => only_dispose_other hf hh hne
  obtain ⟨s₀, rfl, htasks⟩ := hd
  simp only [Registry.close, ht, hc, if_true]
  refine ⟨s₀, rfl, htasks.modify_left fun task' ht' => ?_⟩
  rw [← Registry.tasks_dispose r i] at ht
  obtain ⟨_, ht'', _, hmatch⟩ := htasks.of_some ht
  cases ht'.symm.trans ht''
  obtain ⟨call', stage'⟩ := task'
  cases hmatch with
  | closing hn =>
    rw [← hfilter] at hn ⊢
    have hne : (hs.filter (· != i)).isEmpty = false := by
      cases hl : hs.filter (· != i) with
      | nil => exact absurd (by rw [hl]; rfl) hn
      | cons => rfl
    rw [hne, if_neg Bool.false_ne_true]
    exact .closing hn
  | closed hn =>
    split
    · exact .done
    · exact .closed (hfilter.trans hn)

theorem close (h : N.Alone r s) (hr : r.Reachable) (hf : N.Fits r) (t i : Nat) :
    N.Alone (r.close t i) (s.run (r.aloneAction? N.entry (.closed t i)).toList) := by
  cases ht : r.tasks[t]? with
  | none => simpa [Registry.close, Registry.aloneAction?, Registry.run, ht] using h
  | some task =>
    obtain ⟨call, stage⟩ := task
    cases stage with
    | closing hs =>
      by_cases hm : i ∈ hs
      · have hclosing : r.servers.closing[t]? = some hs := by
          simp [Registry.servers, ht, TaskStage.closingHandles]
        obtain ⟨handle, _, hh, _⟩ := hr.sound.closing hclosing hm
        have hh : r.handles[i]? = some handle := hh
        have hl := (List.getElem?_eq_some_iff.1 hh).1
        by_cases he : handle.entry = N.entry
        · have ha : r.aloneAction? N.entry (.closed t i) = some (.closed t (N.handle i)) := by
            simp [Registry.aloneAction?, Registry.numbering, ht, hm, hh, he,
              hf.handle (Nat.le_of_lt hl)]
          rw [ha]
          exact h.closeOwn hf hr.sound ht hm hh he
        · have ha : r.aloneAction? N.entry (.closed t i) = none := by
            simp [Registry.aloneAction?, Registry.numbering, ht, hh, he]
          rw [ha]
          exact h.closeOther hf ht hm hh he
      · have hc : hs.contains i = false := by simpa using hm
        simpa [Registry.close, Registry.aloneAction?, Registry.run, ht, hc, hm] using h
    | _ => simpa [Registry.close, Registry.aloneAction?, Registry.run, ht] using h

theorem spawned (h : N.Alone r s) (hr : r.Reachable) (a : Nat) (outcome : SpawnOutcome)
    (hf : N.Fits (r.spawned a outcome)) : N.Alone (r.spawned a outcome)
      (s.run (r.aloneAction? N.entry (.spawned a outcome)).toList) := by
  have hfr := hf.before (Registry.servers_spawned r a outcome).steps.before
  have htasks := Registry.tasks_spawned r a outcome
  cases ha : r.attempts[a]? with
  | none => simpa [Registry.spawned, Registry.aloneAction?, Registry.run, ha] using h
  | some attempt =>
    have hl := (List.getElem?_eq_some_iff.1 ha).1
    obtain ⟨e, g, o⟩ := attempt
    cases o with
    | some o =>
      have hs : r.spawned a outcome = r := Registry.spawned_eq_self (by simp [ha]) outcome
      simpa [hs, Registry.aloneAction?, Registry.run, ha] using h
    | none =>
      have hspawned (s : Registry) := only_spawned (s := s) hr hf ha rfl
      by_cases he : e = N.entry
      · have hact : r.aloneAction? N.entry (.spawned a outcome) =
            some (.spawned (N.attempt a) outcome) := by
          simp [Registry.aloneAction?, Registry.numbering, ha, he, hfr.attempt (Nat.le_of_lt hl)]
        obtain ⟨s₀, rfl, hm⟩ := h
        rw [hact]
        refine ⟨s₀, ?_, by rwa [htasks]⟩
        rw [hspawned, if_pos he]
        rfl
      · have hact : r.aloneAction? N.entry (.spawned a outcome) = none := by
          simp [Registry.aloneAction?, ha, he]
        rw [hact]
        exact h.of_same htasks fun s => (hspawned s).trans (if_neg he)

theorem unfinished (h : N.Alone r s) (hu : s.Unfinished t) : r.Unfinished t := by
  obtain ⟨s₀, rfl, hm⟩ := h
  obtain ⟨task', ht', hn⟩ := hu
  cases ht : r.tasks[t]? with
  | none => cases (hm.of_none ht).symm.trans ht'
  | some task =>
    refine ⟨task, ht, ?_⟩
    obtain ⟨_, ht'', _, hmatch⟩ := hm.of_some ht
    cases ht''.symm.trans ht'
    obtain ⟨call, stage⟩ := task
    obtain ⟨call', stage'⟩ := task'
    cases hmatch with
    | done => cases hn
    | _ => rfl

theorem oneAtATime (h : N.Alone r s) (ho : r.OneAtATime) : s.OneAtATime :=
  fun t u ht hu => ho t u (h.unfinished ht) (h.unfinished hu)

theorem resume (h : N.Alone r s) (hr : r.Reachable) (hs : s.Reachable) (hf : N.Fits r)
    (ho : r.OneAtATime) (t : Nat) :
    N.Alone (r.resume t) (s.run (r.aloneAction? N.entry (.resume t)).toList) := by
  cases ht : r.tasks[t]? with
  | none => simpa [Registry.resume, Registry.aloneAction?, Registry.run, ht] using h
  | some task =>
    have ho' := h.oneAtATime ho
    have hsame := h
    obtain ⟨s₀, rfl, hm⟩ := h
    obtain ⟨⟨call', stage'⟩, ht', hc, hmatch⟩ := hm.of_some ht
    obtain ⟨call, stage⟩ := task
    have hc : call' = call := hc
    subst hc
    have ht' : (N.only r s₀).tasks[t]? = some ⟨call', stage'⟩ := ht'
    cases hmatch with
    | begun =>
      have hb := hsame.begin hr hf t call' fun uri =>
        ⟨ho.hasLock hr ht uri, ho'.hasLock hs ht' uri⟩
      simpa only [Registry.resume, Registry.aloneAction?, Registry.run, Registry.step, ht, ht',
        Option.toList_some, List.foldl_cons, List.foldl_nil] using hb
    | _ => simpa [Registry.resume, Registry.aloneAction?, Registry.run, ht] using hsame

/-- Every action does where there is no other server what it does here, as long as one call at most
is under way. -/
theorem step (h : N.Alone r s) (hr : r.Reachable) (hs : s.Reachable) (ho : r.OneAtATime)
    (action : RegistryAction) (hf : N.Fits (r.step action)) :
    N.Alone (r.step action) (s.run (r.aloneAction? N.entry action).toList) := by
  have hfr := hf.before (Registry.servers_steps r action).before
  cases action with
  | call call =>
    obtain ⟨s₀, rfl, hm⟩ := h
    exact ⟨{ s₀ with tasks := s₀.tasks ++ [⟨call, .begun⟩] }, rfl, hm.append call⟩
  | resume t => exact h.resume hr hs hfr ho t
  | read t result =>
    cases ht : r.tasks[t]? with
    | none => simpa [Registry.step, Registry.read, Registry.aloneAction?, Registry.run, ht] using h
    | some task =>
      obtain ⟨call, stage⟩ := task
      cases stage with
      | reading event path uri =>
        have ha : r.aloneAction? N.entry (.read t result) = some (.read t result) := by
          simp [Registry.aloneAction?, ht]
        rw [ha]
        exact h.read t result ht
      | _ => simpa [Registry.step, Registry.read, Registry.aloneAction?, Registry.run, ht] using h
  | deliver t d => exact h.deliver hr hfr t d
  | sent t d accepted => exact h.endSending hr hfr t d accepted
  | spawned a outcome => exact h.spawned hr a outcome hf
  | closed t i => exact h.close hr hfr t i
  | exit i => exact h.exit hr hfr i
  | notify i method params =>
    obtain ⟨hub, heq⟩ := Registry.receive_eq r i method params
    have hstep : r.step (.notify i method params) = { r with hub } := heq
    rw [hstep]
    exact h.of_same rfl fun _ => rfl
  | hub call => exact h

end Alone

end Numbering

end Switchyard
