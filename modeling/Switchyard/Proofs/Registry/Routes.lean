import Switchyard.Proofs.Document.Selector
import Switchyard.Proofs.Registry.Failures
import Switchyard.Proofs.Uri.RoundTrip

namespace Switchyard

def Errand.version? : Errand → Option Int32
  | .opening _ _ _ => some 1
  | .changing _ _ _ version => some version
  | _ => none

namespace Registry

variable {r r' : Registry} {t u e : Nat} {uri : String} {path : Path} {action : RegistryAction}
  {call : RegistryCall} {errand errand' : Errand} {ds : List Delivery}

theorem matching_congr {path' : Path} (h : Uri.ofPath? path = some uri)
    (h' : Uri.ofPath? path' = some uri) : r.matching path = r.matching path' := by
  unfold matching
  congr 1
  funext entry
  exact DocumentSelector.accepts_congr (Uri.ofPath?_inj h h') rfl

def Routes (r : Registry) (t : Nat) (call : RegistryCall) (errand : Errand) (ds : List Delivery)
    (uri : String) : Prop :=
  r.tasks[t]? = some ⟨call, .routing errand ds⟩ ∧ ∃ stage, errand.turn? = some (uri, stage)

structure Rests (r r' : Registry) (uri : String) : Prop where
  version : r'.versions.lookup uri = r.versions.lookup uri
  routes {t : Nat} {call : RegistryCall} {errand : Errand} {ds : List Delivery} :
    r'.Routes t call errand ds uri → r.Routes t call errand ds uri

/-- A task sets out on an errand on a document, which nobody is telling servers of. -/
structure SetsOutOn (r r' : Registry) (t : Nat) (errand : Errand) (path : Path) (uri : String) :
    Prop where
  names : Uri.ofPath? path = some uri
  alone {u : Nat} {call : RegistryCall} {errand' : Errand} {ds : List Delivery} :
    ¬ r.Routes u call errand' ds uri
  version : r'.versions.lookup uri = errand.version?
  next {u language text : String} {version : Int32} : errand = .changing u language text version →
    version = r.nextVersion uri
  routes {u : Nat} {call : RegistryCall} {errand' : Errand} {ds : List Delivery} :
    r'.Routes u call errand' ds uri →
      u = t ∧ errand' = errand ∧ ds = (r.matching path).map fun e => ⟨e, .begun⟩
  sent : r.matching path ≠ [] →
    ∃ call, r'.Routes t call errand ((r.matching path).map fun e => ⟨e, .begun⟩) uri

theorem lookup_setVersion (r : Registry) (uri uri' : String) (version : Int32) :
    (r.setVersion uri version).versions.lookup uri' =
      if uri' = uri then some version else r.versions.lookup uri' := by
  simp only [setVersion, List.lookup_cons, lookup_filter_bne]
  by_cases h : uri' = uri
  · simp [h]
  · simp [h, beq_false_of_ne h]

theorem lookup_dropVersion (r : Registry) (uri uri' : String) :
    (r.dropVersion uri).versions.lookup uri' =
      if uri' = uri then none else r.versions.lookup uri' :=
  lookup_filter_bne r.versions uri uri'

theorem task_routeTo {task : Task} (ht : r.tasks[t]? = some task) (errand : Errand)
    (es : List Nat) :
    (es ≠ [] ∧ ((r.routeTo t errand es).finish t).tasks[t]? =
        some ⟨task.call, .routing errand (es.map fun e => ⟨e, .begun⟩)⟩) ∨
      (es = [] ∧ ∃ result, ((r.routeTo t errand es).finish t).tasks[t]? =
        some ⟨task.call, .done result⟩) := by
  have hs : (r.routeTo t errand es).tasks[t]? =
      some ⟨task.call, .routing errand (es.map fun e => ⟨e, .begun⟩)⟩ := by
    simp [routeTo, setStage, ht]
  unfold finish
  rw [hs]
  cases es with
  | nil =>
    refine .inr ⟨rfl, ?_⟩
    have hu : ((r.routeTo t errand []).unlock t errand).tasks[t]? = _ :=
      (congrArg (·[t]?) (tasks_unlock _ t errand)).trans hs
    simp only [List.map_nil, List.all_nil, if_true, setStage, List.getElem?_modify_eq]
    simp only [List.map_nil] at hu
    exact ⟨_, by rw [hu]; rfl⟩
  | cons e es => exact .inl ⟨List.cons_ne_nil _ _, hs⟩

section RouteTo

variable {task : Task} (ht : r'.tasks[t]? = some task)
variable (hothers : ∀ u, u ≠ t → r'.tasks[u]? = r.tasks[u]?)

include ht hothers

theorem routes_routeTo (es : List Nat)
    (hroutes : ((r'.routeTo t errand es).finish t).Routes u call errand' ds uri) :
    (u = t ∧ errand' = errand ∧ ds = es.map fun e => ⟨e, .begun⟩) ∨
      u ≠ t ∧ r.Routes u call errand' ds uri := by
  obtain ⟨hu, hturn⟩ := hroutes
  by_cases heq : u = t
  · subst heq
    obtain ⟨-, h⟩ | ⟨-, result, h⟩ := task_routeTo ht errand es
    · cases hu.symm.trans h
      exact .inl ⟨rfl, rfl, rfl⟩
    · cases hu.symm.trans h
  · have hkept := ((advances_self t r').setStage (.routing errand (es.map (⟨·, .begun⟩)))).finish
    rw [routeTo, hkept.other heq, hothers u heq] at hu
    exact .inr ⟨heq, hu, hturn⟩

theorem setsOutOn_routeTo (hm : r'.matching path = r.matching path)
    (hnames : Uri.ofPath? path = some uri)
    (halone : ∀ u call errand' ds, ¬ r.Routes u call errand' ds uri)
    (hturn : ∃ stage, errand.turn? = some (uri, stage))
    (hversion : r'.versions.lookup uri = errand.version?)
    (hnext : ∀ u language text version, errand = .changing u language text version →
      version = r.nextVersion uri) :
    r.SetsOutOn ((r'.routeTo t errand (r'.matching path)).finish t) t errand path uri where
  names := hnames
  alone := halone _ _ _ _
  version := by rwa [versions_finish]
  next := hnext _ _ _ _
  routes hroutes := by
    rw [← hm]
    exact (routes_routeTo ht hothers _ hroutes).resolve_right fun h => halone _ _ _ _ h.2
  sent hne := by
    rw [← hm] at hne ⊢
    obtain ⟨-, h⟩ | ⟨hnil, -⟩ := task_routeTo ht errand (r'.matching path)
    · exact ⟨task.call, h, hturn⟩
    · exact absurd hnil hne

theorem rests_routeTo {uri' : String} (hturn : ∃ stage, errand.turn? = some (uri', stage))
    (hne : uri ≠ uri') (hversion : r'.versions.lookup uri = r.versions.lookup uri)
    (es : List Nat) : r.Rests ((r'.routeTo t errand es).finish t) uri where
  version := by rwa [versions_finish]
  routes hroutes := by
    obtain ⟨-, rfl, -⟩ | ⟨-, h⟩ := routes_routeTo ht hothers es hroutes
    · obtain ⟨stage, hturn⟩ := hturn
      obtain ⟨-, stage', hturn'⟩ := hroutes
      cases hturn.symm.trans hturn'
      exact absurd rfl hne
    · exact h

end RouteTo

theorem rests_refl (r : Registry) (uri : String) : r.Rests r uri := ⟨rfl, id⟩

/-- Nothing begins where a task gets to a stage in which it tells no servers. -/
theorem rests_setStage {stage : TaskStage} (htasks : r'.tasks = r.tasks)
    (hversions : r'.versions = r.versions) (hstage : ∀ errand ds, stage ≠ .routing errand ds)
    (uri : String) : r.Rests (r'.setStage t stage) uri where
  version := congrArg (List.lookup uri) hversions
  routes {u call errand ds} hroutes := by
    obtain ⟨hu, hturn⟩ := hroutes
    refine ⟨?_, hturn⟩
    by_cases heq : u = t
    · subst heq
      obtain ⟨old, -, hnew⟩ := getElem?_setStage hu
      cases hnew
      exact absurd rfl (hstage errand ds)
    · rw [← htasks]
      exact (((advances_self t r').setStage stage).other heq).symm.trans hu

theorem routes_holdLock {task : Task} {uri' : String} (event : DocumentEvent)
    (htasks : r'.tasks = r.tasks) (hversions : r'.versions = r.versions)
    (hm : r'.matching path = r.matching path) (ht : r.tasks[t]? = some task)
    (hnames : Uri.ofPath? path = some uri')
    (halone : ∀ u call errand ds, ¬ r.Routes u call errand ds uri') (uri : String) :
    r.Rests (r'.holdLock t event path uri') uri ∨
      r.SetsOutOn (r'.holdLock t event path uri') t (.closing uri) path uri := by
  cases event with
  | opened => exact .inl (rests_setStage htasks hversions (fun _ _ h => by cases h) uri)
  | changed => exact .inl (rests_setStage htasks hversions (fun _ _ h => by cases h) uri)
  | closed =>
    have ht' : (r'.dropVersion uri').tasks[t]? = some task := by
      rw [← ht, ← htasks]
      rfl
    have hothers (u : Nat) (_ : u ≠ t) : (r'.dropVersion uri').tasks[u]? = r.tasks[u]? := by
      rw [← htasks]
      rfl
    have hversion := lookup_dropVersion r' uri' uri
    rw [hversions] at hversion
    by_cases heq : uri = uri'
    · subst heq
      rw [if_pos rfl] at hversion
      exact .inr (setsOutOn_routeTo ht' hothers hm hnames halone ⟨_, rfl⟩ hversion nofun)
    · rw [if_neg heq] at hversion
      exact .inl (rests_routeTo ht' hothers ⟨_, rfl⟩ heq hversion _)

/-- Nobody tells servers of a document whose lock a task has got that does not. -/
theorem alone_of_first {task : Task} {stage : TurnStage} (hr : r.Reachable)
    (ht : r.tasks[t]? = some task) (hturn : task.stage.turn? = some (uri, stage))
    (hf : (r.locks.wanting uri).head? = some t)
    (hstage : ∀ errand ds, task.stage ≠ .routing errand ds) (u : Nat) (call : RegistryCall)
    (errand : Errand) (ds : List Delivery) : ¬ r.Routes u call errand ds uri := by
  rintro ⟨hu, stage', hturn'⟩
  have hs := turns_of_task hu
  simp only [TaskStage.turn?, hturn'] at hs
  have hfirst := hr.turnsFit.first hs (turn?_not_waiting hturn')
  cases hf.symm.trans hfirst
  cases ht.symm.trans hu
  exact hstage errand ds rfl

theorem routes_resume (hr : r.Reachable) (t : Nat) (uri : String) :
    r.Rests (r.resume t) uri ∨
      ∃ path, r.SetsOutOn (r.resume t) t (.closing uri) path uri := by
  unfold resume
  split
  · rename_i call ht
    cases ha : r.asks? call with
    | none =>
      have htrace := turns_begin ht
      simp only [turnEvents, ht, ha] at htrace
      refine .inl ⟨htrace.version uri, fun {u call' errand ds} hroutes => ?_⟩
      obtain ⟨hu, stage, hturn⟩ := hroutes
      refine ⟨?_, stage, hturn⟩
      by_cases heq : u = t
      · subst heq
        have hs := turns_of_task hu
        simp only [TaskStage.turn?, hturn] at hs
        obtain ⟨stage', hs'⟩ | hm := htrace.asked hs
        · cases (turns_of_task ht).symm.trans hs'
        · cases hm
      · exact ((advances_begin r t call).other heq).symm.trans hu
    | some asked =>
      obtain ⟨event, uri'⟩ := asked
      obtain ⟨file, -, hnames, hbegin⟩ := begin_of_asks (t := t) ha
      have htasks : (r.requestLock t uri').tasks = r.tasks := rfl
      rw [hbegin]
      split
      · rename_i hl
        have hnobody := nobody_of_hasLock hr ht rfl hl
        have halone (u : Nat) (call : RegistryCall) (errand : Errand) (ds : List Delivery) :
            ¬ r.Routes u call errand ds uri' := by
          rintro ⟨hu, stage, hturn⟩
          have hs := turns_of_task hu
          simp only [TaskStage.turn?, hturn] at hs
          have hm := hr.turnsFit.wants.2 ⟨stage, hs⟩
          rw [show r.turns.locks.wanting uri' = [] from hnobody] at hm
          cases hm
        have hm : (r.requestLock t uri').matching (r.resolve file) = r.matching (r.resolve file) :=
          rfl
        exact (routes_holdLock event htasks rfl hm ht hnames halone uri).imp_right fun h => ⟨_, h⟩
      · exact .inl (rests_setStage htasks rfl (fun _ _ h => by cases h) uri)
  · rename_i call event path uri' ht
    split
    · rename_i hl
      obtain ⟨file, -, -, hnames⟩ := hr.taskFits t _ ht
      have hf := hr.turnsFit.first_of_has (turns_of_task ht) hl
      have halone := alone_of_first hr ht rfl hf fun _ _ h => by cases h
      exact (routes_holdLock event rfl rfl rfl ht hnames halone uri).imp_right fun h => ⟨_, h⟩
    · exact .inl (rests_refl r uri)
  · exact .inl (rests_refl r uri)

theorem routes_read (hr : r.Reachable) (t : Nat) (result : Except FileError String) (uri : String) :
    r.Rests (r.read t result) uri ∨
      ∃ errand path, r.SetsOutOn (r.read t result) t errand path uri ∧
        (errand.isChange = true → .wrote t uri .changed ∈ r.turnEvents (.read t result)) := by
  unfold read
  split
  · rename_i call event path uri' ht
    obtain ⟨⟨file, -, -, hnames⟩, hc⟩ := hr.taskFits t _ ht
    cases result with
    | error error =>
      have htasks : ((r.releaseLock t).dropLock uri').tasks = r.tasks :=
        tasks_unlock r t (.closing uri')
      exact .inl (rests_setStage htasks rfl (fun _ _ h => by cases h) uri)
    | ok text =>
      have hf := hr.turnsFit.first (turns_of_task ht) rfl
      have halone := alone_of_first hr ht rfl hf fun _ _ h => by cases h
      have hroute {version : Int32} {errand : Errand}
          (hturn : ∃ stage, errand.turn? = some (uri', stage))
          (hversion : errand.version? = some version)
          (hnext : ∀ u language text v, errand = .changing u language text v →
            v = r.nextVersion uri')
          (hevent : errand.isChange = true →
            .wrote t uri' .changed ∈ r.turnEvents (.read t (.ok text))) :
          r.Rests (((r.setVersion uri' version).routeTo t errand (r.matching path)).finish t) uri ∨
            ∃ errand' path', r.SetsOutOn (((r.setVersion uri' version).routeTo t errand
              (r.matching path)).finish t) t errand' path' uri ∧
                (errand'.isChange = true →
                  .wrote t uri .changed ∈ r.turnEvents (.read t (.ok text))) := by
        have hlookup := lookup_setVersion r uri' uri version
        have hothers (u : Nat) (_ : u ≠ t) : (r.setVersion uri' version).tasks[u]? = r.tasks[u]? :=
          rfl
        have hm : (r.setVersion uri' version).matching path = r.matching path := rfl
        have ht' : (r.setVersion uri' version).tasks[t]? = some _ := ht
        by_cases heq : uri = uri'
        · subst heq
          rw [if_pos rfl, ← hversion] at hlookup
          exact .inr ⟨errand, path,
            setsOutOn_routeTo ht' hothers hm hnames halone hturn hlookup hnext, hevent⟩
        · rw [if_neg heq] at hlookup
          exact .inl (rests_routeTo ht' hothers hturn heq hlookup _)
      cases event with
      | closed => exact absurd rfl hc
      | opened => exact hroute ⟨_, rfl⟩ rfl nofun fun hn => absurd hn Bool.false_ne_true
      | changed =>
        refine hroute ⟨_, rfl⟩ rfl ?_ fun _ => ?_
        · rintro _ _ _ _ ⟨⟩
          rfl
        · simp only [turnEvents, ht]
          exact List.mem_singleton_self _
  · exact .inl (rests_refl r uri)

/-- An action that lets no delivery go on begins nothing at a document, or lets one task set out on
an errand on it. -/
theorem routes_step (hr : r.Reachable) (hd : ∀ t i, action ≠ .deliver t i)
    (hs : ∀ t i accepted, action ≠ .sent t i accepted) (uri : String) :
    r.Rests (r.step action) uri ∨
      ∃ t errand path, r.SetsOutOn (r.step action) t errand path uri ∧
        (errand.isChange = true → .wrote t uri .changed ∈ r.turnEvents action) := by
  have hrests (hevents : r.turnEvents action = [])
      (hheeds : ∀ (t : Nat) (stage : TaskStage), stage.turn?.isSome → ¬ stage.Heeds t action) :
      r.Rests (r.step action) uri := by
    have htrace := turns_step hr.taskFits action
    rw [hevents] at htrace
    refine ⟨htrace.version uri, fun {u call errand ds} hroutes => ?_⟩
    obtain ⟨hu, stage, hturn⟩ := hroutes
    refine ⟨?_, stage, hturn⟩
    have hstage := turns_of_task hu
    simp only [TaskStage.turn?, hturn] at hstage
    obtain ⟨stage', hold⟩ | hm := htrace.asked hstage
    · simp only [turns, List.getElem?_map] at hold
      obtain ⟨⟨call', old⟩, ht, hstage'⟩ := Option.map_eq_some_iff.1 hold
      have hquiet := task_quiet ht (hheeds u old (by rw [hstage']; rfl))
      cases hu.symm.trans hquiet
      exact ht
    · cases hm
  cases action with
  | resume t =>
    obtain h | ⟨path, h⟩ := routes_resume hr t uri
    · exact .inl h
    · exact .inr ⟨t, _, path, h, fun hn => absurd hn Bool.false_ne_true⟩
  | read t result => exact (routes_read hr t result uri).imp_right fun h => ⟨t, h⟩
  | deliver t i => exact absurd rfl (hd t i)
  | sent t i accepted => exact absurd rfl (hs t i accepted)
  | _ =>
    refine .inl (hrests rfl fun u stage hturn => ?_)
    cases stage <;> simp [TaskStage.turn?] at hturn <;> simp [TaskStage.Heeds]

end Registry

end Switchyard
