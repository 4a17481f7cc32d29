import Switchyard.Proofs.Registry.Unusable

namespace Switchyard

/-- The errand comes out at a server that takes no notification: a closing of a document that the
server has not got open. -/
def Errand.passesOver (entry : Entry) : Errand → DeliveryStage → Bool
  | .closing uri, .begun => entry.handle?.isSome && !entry.opened.contains uri
  | _, _ => false

/-- A task that sets out has a delivery to every entry that is wanted; one that has nothing to
deliver has counted none. -/
def TaskStage.SetsOut (wanted : List Nat) : TaskStage → Prop
  | .routing _ ds => ds = wanted.map fun e => ⟨e, .begun⟩
  | .done result => ∀ reply, result = .ok reply → reply = .count 0
  | _ => True

def TaskStage.IsEarly : TaskStage → Prop
  | .begun | .locking _ _ _ | .reading _ _ _ => True
  | _ => False

namespace Registry

variable {r r' : Registry} {t u e h i m : Nat} {call : RegistryCall} {errand : Errand}
  {ds : List Delivery} {d : Delivery} {event : DocumentEvent} {file : Path}
  {action : RegistryAction}

/-- The entry of the server that has taken a notification of a task. -/
def taker? (r : Registry) (t : Nat) : RegistryEvent → Option Nat
  | .accepted u h _ => if u = t then (r.handles[h]?).map (·.entry) else none
  | _ => none

/-- The entries whose servers have taken notifications of a task, once for each of them. -/
def takers (r : Registry) (t : Nat) : List Nat := r.history.filterMap (r.taker? t)

def passes (r : Registry) (t : Nat) : RegistryAction → Bool
  | .deliver u i =>
    u == t && match r.tasks[t]? with
      | some ⟨_, .routing errand ds⟩ =>
        (ds[i]?).any fun d => (r.entries[d.entry]?).any fun entry => errand.passesOver entry d.stage
      | _ => false
  | _ => false

def passedOver (r : Registry) (t : Nat) : List RegistryAction → Nat
  | [] => 0
  | action :: actions => (r.passes t action).toNat + (r.step action).passedOver t actions

theorem taker?_accepted {notice : Notice} (hs : r.Serves e h) :
    r.taker? t (.accepted t h notice) = some e := by
  obtain ⟨handle, hh, he, -⟩ := hs
  rw [taker?, if_pos rfl, hh]
  exact congrArg some he

theorem takers_eq (r : Registry) (t : Nat) : r.takers t = r.traffic.2.filterMap (r.taker? t) := by
  have hn (event : RegistryEvent) (ha : ¬ event.isAcceptance = true) : r.taker? t event = none := by
    cases event with
    | accepted => exact absurd rfl ha
    | _ => rfl
  rw [takers, traffic]
  induction r.history with
  | nil => rfl
  | cons event events ih =>
    by_cases ha : event.isAcceptance = true
    · rw [List.filter_cons_of_pos ha, List.filterMap_cons, List.filterMap_cons, ih]
    · rw [List.filter_cons_of_neg ha, List.filterMap_cons_none (hn event ha), ih]

theorem taker?_before (hr : r.Reachable) (hb : Servers.Before r.servers r'.servers)
    {event : RegistryEvent} (hm : event ∈ r.traffic.2) : r'.taker? t event = r.taker? t event := by
  cases event with
  | accepted u h notice =>
    obtain ⟨_, _, e, -, -, -, hs⟩ := hr.acceptedFits u h notice (mem_traffic.1 hm)
    by_cases hu : u = t
    · subst hu
      rw [taker?_accepted hs, taker?_accepted (serves_before hb hs)]
    · rw [taker?, taker?, if_neg hu, if_neg hu]
  | _ => rfl

theorem takers_of_same (hr : r.Reachable) (hb : Servers.Before r.servers r'.servers)
    (ht : r'.traffic.2 = r.traffic.2) (t : Nat) : r'.takers t = r.takers t := by
  rw [takers_eq, takers_eq, ht]
  exact List.filterMap_congr fun _ hm => taker?_before hr hb hm

theorem takers_of_accepted {notice : Notice} (hr : r.Reachable)
    (hb : Servers.Before r.servers r'.servers)
    (ht : r'.traffic.2 = (r.acceptedTraffic u h notice).2)
    (hs : r.Serves e h) (t : Nat) :
    r'.takers t = (if u = t then [e] else []) ++ r.takers t := by
  have hrest : r.traffic.2.filterMap (r'.taker? t) = r.takers t := by
    rw [takers_eq]
    exact List.filterMap_congr fun _ hm => taker?_before hr hb hm
  rw [takers_eq, ht]
  by_cases hu : u = t
  · subst hu
    rw [if_pos rfl]
    exact (List.filterMap_cons_some (taker?_accepted (serves_before hb hs))).trans
      (congrArg (e :: ·) hrest)
  · rw [if_neg hu]
    have hn : r'.taker? t (.accepted u h notice) = none := if_neg hu
    exact (List.filterMap_cons_none hn).trans hrest

theorem takers_step (hr : r.Reachable) (hs : ∀ i accepted, action ≠ .sent t i accepted) :
    (r.step action).takers t = r.takers t := by
  have hb := (servers_steps r action).before
  by_cases hu : ∃ u i accepted, action = .sent u i accepted
  · obtain ⟨u, i, accepted, rfl⟩ := hu
    have hne : u ≠ t := by
      rintro rfl
      exact hs i accepted rfl
    obtain heq | ⟨h, notice, hsend, heq⟩ := traffic_endSending r u i accepted
    · exact takers_of_same hr hb (congrArg Prod.snd heq) t
    · obtain ⟨_, _, _, e, _, _, hserves⟩ := hsend.fits hr
      have ht := takers_of_accepted hr hb (congrArg Prod.snd heq) hserves t
      rwa [if_neg hne] at ht
  · have hn : ∀ u i accepted, action ≠ .sent u i accepted :=
      fun u i accepted heq => hu ⟨u, i, accepted, heq⟩
    exact takers_of_same hr hb (acceptances_step hn) t

theorem matching_before (hb : Servers.Before r.servers r'.servers) (path : Path) :
    r'.matching path = r.matching path := by
  have hm (r : Registry) : r.matching path = (List.range r.servers.configs.length).filter fun e =>
      (r.servers.configs[e]?).any fun config => config.selector.accepts path r.servers.root := by
    simp [matching, entriesWhere, servers, Option.any_map]
  rw [hm, hm, hb.configs, hb.root]

def wanting (r : Registry) (file : Path) : List Nat := r.matching (r.resolve file)

theorem wanting_before (hb : Servers.Before r.servers r'.servers) (file : Path) :
    r'.wanting file = r.wanting file := by
  have hroot : r'.root = r.root := hb.root
  rw [wanting, wanting, matching_before hb, resolve, resolve, hroot]

theorem uri?_of_sends {notice : Notice} (hdoc : call.document? = some (event, file))
    (hf : r.ErrandFits call errand) (hs : errand.Sends notice) :
    ∃ uri, Uri.ofPath? (r.resolve file) = some uri ∧ notice.uri? = some uri := by
  have hreport (event' : DocumentEvent) (path : Path) (uri : String)
      (h : r.Reports call event' path uri) : Uri.ofPath? (r.resolve file) = some uri := by
    obtain ⟨file', hc, rfl, hu⟩ := h
    cases hdoc.symm.trans hc
    exact hu
  cases errand with
  | start => exact hs.elim
  | opening uri language text =>
    obtain ⟨path, h⟩ := hf
    cases hs
    exact ⟨uri, hreport _ path uri h, rfl⟩
  | changing uri language text version =>
    obtain ⟨path, h⟩ := hf
    obtain hs | hs := hs
    all_goals
      cases hs
      exact ⟨uri, hreport _ path uri h, rfl⟩
  | closing uri =>
    obtain ⟨path, h⟩ := hf
    cases hs
    exact ⟨uri, hreport _ path uri h, rfl⟩
  | telling method params =>
    obtain ⟨file', rfl⟩ := hf
    cases hdoc

theorem closed_of_closing {uri : String} (hdoc : call.document? = some (event, file))
    (hf : r.ErrandFits call (.closing uri)) : event = .closed := by
  obtain ⟨path, file', hc, -⟩ := hf
  cases hdoc.symm.trans hc
  rfl

theorem result_document (hc : call.document?.isSome) (r : Registry) (ds : List Delivery) :
    r.result call ds = .ok (.count (ds.countP (·.stage.isAccepted))) := by
  cases call <;> first | rfl | cases hc

def SetsOut (r : Registry) (t : Nat) (wanted : List Nat) : Prop :=
  ∀ call stage, r.tasks[t]? = some ⟨call, stage⟩ → call.document?.isSome → stage.SetsOut wanted

section SetsOut

variable {wanted : List Nat} {path : Path} {uri : String}

theorem setsOut_setStage {stage : TaskStage} (h : stage.SetsOut wanted) :
    (r.setStage t stage).SetsOut t wanted := by
  intro call stage' ht _
  obtain ⟨old, -, heq⟩ := getElem?_setStage ht
  cases heq
  exact h

theorem setsOut_finish (h : r.SetsOut t wanted) : (r.finish t).SetsOut t wanted := by
  unfold finish
  split
  · rename_i call errand ds ht
    split
    · rename_i hall
      intro call' stage ht' hc
      obtain ⟨old, hold, heq⟩ := getElem?_setStage ht'
      rw [tasks_unlock, ht] at hold
      cases hold
      cases heq
      have hds : ds = wanted.map fun e => ⟨e, .begun⟩ := h _ _ ht hc
      have hempty : ds = [] := by
        rw [List.eq_nil_iff_forall_not_mem]
        intro d hm
        have hdone := List.all_eq_true.1 hall d hm
        rw [hds] at hm
        obtain ⟨e, -, rfl⟩ := List.mem_map.1 hm
        cases hdone
      subst hempty
      intro reply hreply
      rw [result_document hc] at hreply
      cases hreply
      rfl
    · exact h
  · exact h

theorem setsOut_route (r : Registry) (t : Nat) (errand : Errand) (wanted : List Nat) :
    ((r.routeTo t errand wanted).finish t).SetsOut t wanted :=
  setsOut_finish (setsOut_setStage rfl)

theorem setsOut_holdLock (r : Registry) (t : Nat) (event : DocumentEvent) (path : Path)
    (uri : String) : (r.holdLock t event path uri).SetsOut t (r.matching path) := by
  cases event with
  | closed => exact setsOut_route (r.dropVersion uri) t (.closing uri) (r.matching path)
  | _ => exact setsOut_setStage trivial

theorem setsOut_beginDocument (r : Registry) (t : Nat) (event : DocumentEvent) (file : Path) :
    (r.beginDocument t event file).SetsOut t (r.wanting file) := by
  unfold beginDocument
  dsimp only
  split
  · exact setsOut_setStage nofun
  · rename_i uri _
    split
    · exact setsOut_holdLock (r.requestLock t uri) t event (r.resolve file) uri
    · exact setsOut_setStage trivial

theorem setsOut_begin (hdoc : call.document? = some (event, file)) (r : Registry) (t : Nat) :
    (r.begin t call).SetsOut t (r.wanting file) := by
  cases call with
  | document event' file' =>
    cases hdoc
    exact setsOut_beginDocument r t event file
  | watched event' file' =>
    cases hdoc
    rw [begin]
    split
    · exact setsOut_beginDocument r t event file
    · apply setsOut_setStage
      split
      · trivial
      · intro n hn
        cases hn
        rfl
  | _ => cases hdoc

theorem reports_path {event' : DocumentEvent} (hdoc : call.document? = some (event, file))
    (h : r.Reports call event' path uri) : path = r.resolve file := by
  obtain ⟨file', hc, rfl, -⟩ := h
  cases hdoc.symm.trans hc
  rfl

/-- A task on a document goes on with its deliveries, or stays where it is, or has not routed yet
and sets out. -/
theorem setsOut_step {stage : TaskStage} (hr : r.Reachable)
    (ht : r.tasks[t]? = some ⟨call, stage⟩) (hdoc : call.document? = some (event, file))
    (hd : ∀ i, action ≠ .deliver t i) (hs : ∀ i accepted, action ≠ .sent t i accepted) :
    (r.step action).tasks[t]? = some ⟨call, stage⟩ ∨
      (r.step action).SetsOut t (r.wanting file) ∧ stage.IsEarly := by
  by_cases hh : stage.Heeds t action
  · have hfit := hr.taskFits t _ ht
    cases stage with
    | begun =>
      cases hh
      rw [step, resume, ht]
      exact .inr ⟨setsOut_begin hdoc r t, trivial⟩
    | locking event' path uri =>
      cases hh
      rw [step, resume, ht]
      dsimp only
      split
      · rw [wanting, ← reports_path hdoc hfit]
        exact .inr ⟨setsOut_holdLock r t event' path uri, trivial⟩
      · exact .inl ht
    | reading event' path uri =>
      obtain ⟨result, rfl⟩ := hh
      rw [step, read, ht]
      cases result with
      | error e =>
        refine .inr ⟨setsOut_setStage ?_, trivial⟩
        intro reply heq
        cases heq
      | ok text =>
        rw [wanting, ← reports_path hdoc hfit.1]
        exact .inr ⟨setsOut_route (r.setVersion uri _) t _ (r.matching path), trivial⟩
    | routing errand ds =>
      obtain ⟨i, rfl⟩ | ⟨i, accepted, rfl⟩ := hh
      · exact absurd rfl (hd i)
      · exact absurd rfl (hs i accepted)
    | closing handles =>
      have hcall : call = .shutdownAll := hfit
      subst hcall
      cases hdoc
    | done result => exact hh.elim
  · exact .inl (task_quiet ht hh)

end SetsOut

theorem arrive_not_accepted {entry : Entry} (hs : errand ≠ .start)
    (hc : ∀ uri, errand ≠ .closing uri) (r : Registry) (e h : Nat) :
    (r.arrive errand e entry h).2.isAccepted = false := by
  cases errand with
  | start => exact absurd rfl hs
  | closing uri => exact absurd rfl (hc uri)
  | changing uri language text version =>
    rw [arrive]
    split <;> rfl
  | _ => rfl

/-- A delivery comes out accepted where its server is passed over, and in no other case. -/
theorem advance_accepted {entry : Entry} (hs : errand ≠ .start)
    (hc : ∀ uri, errand = .closing uri → ∀ a, d.stage ≠ .starting a) (r : Registry) :
    (r.advance errand d entry).2.isAccepted =
      (d.stage.isAccepted || errand.passesOver entry d.stage) := by
  obtain ⟨e, stage⟩ := d
  by_cases hclosing : ∃ uri, errand = .closing uri
  · obtain ⟨uri, rfl⟩ := hclosing
    cases stage with
    | begun =>
      simp only [advance, seek, Errand.passesOver]
      cases entry.handle? with
      | none => rfl
      | some h =>
        simp only [arrive]
        cases entry.opened.contains uri <;> rfl
    | starting a => exact absurd rfl (hc uri rfl a)
    | sending h notice => rfl
    | done outcome => exact (Bool.or_false _).symm
  · have hn : ∀ uri, errand ≠ .closing uri := fun uri heq => hclosing ⟨uri, heq⟩
    have hp (stage : DeliveryStage) : errand.passesOver entry stage = false := by
      cases errand <;> first | rfl | exact absurd rfl (hn _)
    rw [hp, Bool.or_false]
    cases stage with
    | begun =>
      unfold advance seek
      dsimp only
      split
      · exact absurd rfl (hn _)
      · split
        · rfl
        · split
          · exact arrive_not_accepted hs hn r e _
          · rfl
          · rfl
    | starting a =>
      unfold advance
      dsimp only
      split
      · rfl
      · exact arrive_not_accepted hs hn r e _
      · rfl
    | sending h notice => rfl
    | done outcome => rfl

theorem advance_closing_direct {entry : Entry} {uri : String} (hd : ∀ a, d.stage ≠ .starting a)
    (r : Registry) (a : Nat) : (r.advance (.closing uri) d entry).2 ≠ .starting a := by
  obtain ⟨e, stage⟩ := d
  cases stage with
  | begun =>
    simp only [advance, seek]
    cases entry.handle? with
    | none => exact fun h => DeliveryStage.noConfusion h
    | some h =>
      simp only [arrive]
      split <;> exact fun h => DeliveryStage.noConfusion h
  | starting a' => exact absurd rfl (hd a')
  | sending h notice => exact fun h => DeliveryStage.noConfusion h
  | done outcome => exact fun h => DeliveryStage.noConfusion h

theorem sent_cases (r : Registry) (t e h : Nat) (notice : Notice) (accepted : Bool) :
    ((r.sent t e h notice accepted).1.traffic = r.acceptedTraffic t h notice ∧
        (r.sent t e h notice accepted).2 = .done (.accepted h)) ∨
      ((r.sent t e h notice accepted).1.traffic = r.traffic ∧
        (r.sent t e h notice accepted).2 = .done .declined) := by
  unfold sent
  dsimp only
  split
  · exact .inl ⟨rfl, rfl⟩
  · cases notice <;> exact .inr ⟨rfl, rfl⟩

structure OnTheWay (takers wanted : List Nat) (m : Nat) (errand : Errand) (ds : List Delivery) :
    Prop where
  count : ds.countP (·.stage.isAccepted) = takers.length + m
  taken : ∀ e ∈ takers, ∃ d ∈ ds, d.entry = e ∧ d.stage.isAccepted = true
  nodup : takers.Nodup
  wanted : ∀ d ∈ ds, d.entry ∈ wanted
  passed : (∀ uri, errand ≠ .closing uri) → m = 0
  direct : ∀ uri, errand = .closing uri → ∀ d ∈ ds, ∀ a, d.stage ≠ .starting a

structure Counted (takers wanted : List Nat) (m : Nat) (event : DocumentEvent)
    (result : Except ServerError RegistryReply) : Prop where
  count : ∀ reply, result = .ok reply → reply = .count (takers.length + m)
  nodup : takers.Nodup
  wanted : ∀ e ∈ takers, e ∈ wanted
  passed : event ≠ .closed → m = 0

def TallyAt (takers wanted : List Nat) (m : Nat) (event : DocumentEvent) : TaskStage → Prop
  | .routing errand ds => OnTheWay takers wanted m errand ds
  | .done result => Counted takers wanted m event result
  | _ => takers = [] ∧ m = 0

/-- The deliveries of a task on a document have passed over so many servers. -/
structure Tally (r : Registry) (t m : Nat) : Prop where
  absent : r.tasks[t]? = none → r.takers t = [] ∧ m = 0
  present : ∀ call stage event file, r.tasks[t]? = some ⟨call, stage⟩ →
    call.document? = some (event, file) → TallyAt (r.takers t) (r.wanting file) m event stage

theorem OnTheWay.update {takers takers' wanted : List Nat} {m' : Nat} {ds' : List Delivery}
    {stage : DeliveryStage} (h : OnTheWay takers wanted m errand ds) (hd : ds[i]? = some d)
    (hd' : ds'[i]? = some ⟨d.entry, stage⟩) (hother : ∀ j, j ≠ i → ds'[j]? = ds[j]?)
    (hcount : takers'.length + m' + d.stage.isAccepted.toNat =
      takers.length + m + stage.isAccepted.toNat)
    (htaken : ∀ e ∈ takers', e ∈ takers ∨ e = d.entry ∧ stage.isAccepted = true)
    (hkeep : d.stage.isAccepted = true → stage.isAccepted = true) (hnodup : takers'.Nodup)
    (hpassed : (∀ uri, errand ≠ .closing uri) → m' = 0)
    (hdirect : ∀ uri, errand = .closing uri → ∀ a, stage ≠ .starting a) :
    OnTheWay takers' wanted m' errand ds' where
  count := by
    have hupdate := countP_of_update (p := (·.stage.isAccepted)) hd hd' hother
    have hcounted := h.count
    dsimp only at hupdate
    omega
  taken e he := by
    obtain ht | ⟨rfl, ht⟩ := htaken e he
    · obtain ⟨x, hx, rfl, hacc⟩ := h.taken e ht
      obtain rfl | hx := mem_of_update hd (fun j hj => (hother j hj).symm) hx
      · exact ⟨_, List.mem_of_getElem? hd', rfl, hkeep hacc⟩
      · exact ⟨x, hx, rfl, hacc⟩
    · exact ⟨_, List.mem_of_getElem? hd', rfl, ht⟩
  nodup := hnodup
  wanted x hx := by
    obtain rfl | hx := mem_of_update hd' hother hx
    · exact h.wanted d (List.mem_of_getElem? hd)
    · exact h.wanted x hx
  passed := hpassed
  direct uri he x hx := by
    obtain rfl | hx := mem_of_update hd' hother hx
    · exact hdirect uri he
    · exact h.direct uri he x hx

theorem OnTheWay.counted {takers wanted : List Nat} (h : OnTheWay takers wanted m errand ds)
    (hdoc : call.document? = some (event, file)) (hf : r.ErrandFits call errand) (r' : Registry) :
    Counted takers wanted m event (r'.result call ds) where
  count reply hreply := by
    rw [result_document (by rw [hdoc]; rfl), h.count] at hreply
    cases hreply
    rfl
  nodup := h.nodup
  wanted e he := by
    obtain ⟨d, hd, rfl, -⟩ := h.taken e he
    exact h.wanted d hd
  passed hne := by
    apply h.passed
    rintro uri rfl
    exact hne (closed_of_closing hdoc hf)

theorem tally_setDelivery {stage : DeliveryStage} {s : Registry}
    (ht : s.tasks[t]? = some ⟨call, .routing errand ds⟩) (hd : ds[i]? = some d)
    (hf : r.ErrandFits call errand) (heq : r' = s.setDelivery t errand ds i stage)
    (h : ∀ event file, call.document? = some (event, file) → ∀ ds',
      ds'[i]? = some ⟨d.entry, stage⟩ → (∀ j, j ≠ i → ds'[j]? = ds[j]?) →
        OnTheWay (r'.takers t) (r'.wanting file) m errand ds') : r'.Tally t m := by
  obtain ⟨ds', hi, hother, -, hnew⟩ := task_setDelivery errand stage ht hd
  rw [← heq] at hnew
  obtain ⟨-, ht'⟩ | ⟨-, ht'⟩ := hnew
  · refine ⟨fun hn => ?_, fun call' stage' event file ht'' hdoc => ?_⟩
    · cases hn.symm.trans ht'
    · cases ht'.symm.trans ht''
      exact h event file hdoc ds' hi hother
  · refine ⟨fun hn => ?_, fun call' stage' event file ht'' hdoc => ?_⟩
    · cases hn.symm.trans ht'
    · cases ht'.symm.trans ht''
      exact (h event file hdoc ds' hi hother).counted hdoc hf s

theorem Tally.stay (h : r.Tally t m) (htask : r'.tasks[t]? = r.tasks[t]?)
    (htakers : r'.takers t = r.takers t) (hb : Servers.Before r.servers r'.servers) :
    r'.Tally t m where
  absent hn := by
    rw [htakers]
    exact h.absent (htask ▸ hn)
  present call stage event file ht hdoc := by
    rw [htakers, wanting_before hb]
    exact h.present call stage event file (htask ▸ ht) hdoc

theorem document_errand (hdoc : call.document? = some (event, file))
    (hf : r.ErrandFits call errand) : errand ≠ .start := by
  rintro rfl
  obtain ⟨id, rfl⟩ | ⟨languages, rfl⟩ := hf <;> cases hdoc

theorem passesOver_closing {entry : Entry} {stage : DeliveryStage}
    (h : errand.passesOver entry stage = true) :
    (∃ uri, errand = .closing uri) ∧ stage.isAccepted = false := by
  cases errand with
  | closing uri =>
    cases stage with
    | begun => exact ⟨⟨uri, rfl⟩, rfl⟩
    | _ => cases h
  | _ => cases h

theorem passes_cases (r : Registry) (t i : Nat) :
    (r.step (.deliver t i) = r ∧ r.passes t (.deliver t i) = false) ∨
      ∃ call errand ds d entry, r.tasks[t]? = some ⟨call, .routing errand ds⟩ ∧ ds[i]? = some d ∧
        r.step (.deliver t i) =
          (r.advance errand d entry).1.setDelivery t errand ds i (r.advance errand d entry).2 ∧
        r.passes t (.deliver t i) = errand.passesOver entry d.stage := by
  by_cases hroute : ∃ call errand ds, r.tasks[t]? = some ⟨call, .routing errand ds⟩
  · obtain ⟨call, errand, ds, ht⟩ := hroute
    simp only [Registry.step, Registry.deliver, passes, ht, beq_self_eq_true, Bool.true_and]
    cases hd : ds[i]? with
    | none => exact .inl ⟨rfl, rfl⟩
    | some d =>
      dsimp only
      cases he : r.entries[d.entry]? with
      | none => exact .inl ⟨rfl, by simp [he]⟩
      | some entry => exact .inr ⟨call, errand, ds, d, entry, rfl, hd, rfl, by simp [he]⟩
  · have hno : ∀ call errand ds, r.tasks[t]? ≠ some ⟨call, .routing errand ds⟩ :=
      fun call errand ds ht => hroute ⟨call, errand, ds, ht⟩
    refine .inl ⟨deliver_eq_self hno i, ?_⟩
    rw [passes, beq_self_eq_true, Bool.true_and]
    split
    · rename_i call errand ds ht
      exact absurd ht (hno call errand ds)
    · rfl

theorem Tally.deliver (hr : r.Reachable) (h : r.Tally t m) (i : Nat) :
    (r.step (.deliver t i)).Tally t (m + (r.passes t (.deliver t i)).toNat) := by
  obtain ⟨hstep, hpasses⟩ | ⟨call, errand, ds, d, entry, ht, hd, hstep, hpasses⟩ :=
    passes_cases r t i
  · rw [hstep, hpasses]
    exact h
  have hb := (servers_steps r (.deliver t i)).before
  obtain ⟨hf, -⟩ := hr.taskFits t _ ht
  refine tally_setDelivery (by rwa [tasks_advance]) hd hf hstep ?_
  intro event file hdoc ds' hi hother
  have hway : OnTheWay (r.takers t) (r.wanting file) m errand ds := h.present _ _ _ _ ht hdoc
  have hdirect (uri : String) (hc : errand = .closing uri) (a : Nat) : d.stage ≠ .starting a :=
    hway.direct uri hc d (List.mem_of_getElem? hd) a
  have hacc : (r.advance errand d entry).2.isAccepted =
      (d.stage.isAccepted || errand.passesOver entry d.stage) :=
    advance_accepted (document_errand hdoc hf) hdirect r
  have htakers : (r.step (.deliver t i)).takers t = r.takers t := takers_step hr nofun
  rw [htakers, wanting_before hb, hpasses]
  refine hway.update hd hi hother ?_ (fun e he => .inl he) ?_ hway.nodup ?_ ?_
  · rw [hacc]
    cases hp : errand.passesOver entry d.stage with
    | false =>
      rw [Bool.or_false]
      rfl
    | true =>
      rw [(passesOver_closing hp).2]
      rfl
  · intro hold
    rw [hacc, hold]
    rfl
  · intro hc
    rw [hway.passed hc, Bool.eq_false_iff.2 fun hp => (passesOver_closing hp).1.elim hc]
    rfl
  · rintro uri rfl a
    exact advance_closing_direct (hdirect uri rfl) r a

theorem Tally.endSending (hr : r.Reachable) (h : r.Tally t m) (i : Nat) (accepted : Bool) :
    (r.step (.sent t i accepted)).Tally t m := by
  obtain hstep | ⟨call, errand, ds, e, server, notice, ht, hd, hstep⟩ :=
    endSending_cases r t i accepted
  · rwa [step, hstep]
  have hb := (servers_steps r (.sent t i accepted)).before
  have htraffic : (r.step (.sent t i accepted)).traffic =
      (r.sent t e server notice accepted).1.traffic := by rw [step, hstep, traffic_setDelivery]
  obtain ⟨hf, hds, -⟩ := hr.taskFits t _ ht
  refine tally_setDelivery (by rwa [tasks_sent]) hd hf hstep ?_
  intro event file hdoc ds' hi hother
  have hway : OnTheWay (r.takers t) (r.wanting file) m errand ds := h.present _ _ _ _ ht hdoc
  rw [wanting_before hb]
  obtain ⟨htaken, hstage⟩ | ⟨hsame, hstage⟩ := sent_cases r t e server notice accepted
  · have hserves : r.Serves e server := (hds _ (List.mem_of_getElem? hd)).2
    rw [htaken] at htraffic
    rw [takers_of_accepted hr hb (congrArg Prod.snd htraffic) hserves t, if_pos rfl]
    rw [hstage] at hi
    have hnot : e ∉ r.takers t := by
      intro hm
      obtain ⟨x, hx, he, hacc⟩ := hway.taken e hm
      obtain ⟨j, hj⟩ := List.mem_iff_getElem?.1 hx
      obtain rfl : j = i := delivery_unique hr ht hj hd he
      cases hd.symm.trans hj
      cases hacc
    refine hway.update hd hi hother ?_ ?_ (fun hold => by cases hold) ?_ hway.passed
      fun _ _ _ heq => by cases heq
    · simp [DeliveryStage.isAccepted]
      omega
    · intro x hx
      obtain rfl | hx := List.mem_cons.1 hx
      · exact .inr ⟨rfl, rfl⟩
      · exact .inl hx
    · exact List.nodup_cons.2 ⟨hnot, hway.nodup⟩
  · rw [hsame] at htraffic
    rw [takers_of_same hr hb (congrArg Prod.snd htraffic) t]
    rw [hstage] at hi
    exact hway.update hd hi hother rfl (fun e he => .inl he) (fun hold => by cases hold)
      hway.nodup hway.passed fun _ _ _ heq => by cases heq

theorem tallyAt_setsOut {wanted : List Nat} {stage : TaskStage} (h : stage.SetsOut wanted)
    (event : DocumentEvent) : TallyAt [] wanted 0 event stage := by
  cases stage with
  | routing errand ds =>
    obtain rfl : ds = wanted.map fun e => ⟨e, .begun⟩ := h
    exact {
      count := List.countP_eq_zero.2 fun d hd => by
        obtain ⟨e, -, rfl⟩ := List.mem_map.1 hd
        exact Bool.false_ne_true
      taken := nofun
      nodup := List.nodup_nil
      wanted := fun d hd => by
        obtain ⟨e, he, rfl⟩ := List.mem_map.1 hd
        exact he
      passed := fun _ => rfl
      direct := fun _ _ d hd a => by
        obtain ⟨e, -, rfl⟩ := List.mem_map.1 hd
        nofun }
  | done result => exact ⟨h, List.nodup_nil, nofun, fun _ => rfl⟩
  | _ => exact ⟨rfl, rfl⟩

theorem passes_quiet (r : Registry) (hd : ∀ i, action ≠ .deliver t i) :
    r.passes t action = false := by
  cases action with
  | deliver u i =>
    have hne : (u == t) = false := beq_false_of_ne fun h => hd i (h ▸ rfl)
    rw [passes, hne, Bool.false_and]
  | _ => rfl

theorem Tally.quiet (hr : r.Reachable) (h : r.Tally t m) (hd : ∀ i, action ≠ .deliver t i)
    (hs : ∀ i accepted, action ≠ .sent t i accepted) : (r.step action).Tally t m := by
  have hb := (servers_steps r action).before
  have htakers := takers_step hr hs
  cases ht : r.tasks[t]? with
  | none =>
    have hnone := h.absent ht
    rw [← htakers] at hnone
    refine ⟨fun _ => hnone, fun call stage event file ht' _ => ?_⟩
    obtain rfl : stage = .begun := new_task ht ht'
    exact hnone
  | some task =>
    obtain ⟨call, stage⟩ := task
    obtain ⟨⟨_, stage'⟩, ht', rfl⟩ := calls_step r action t _ ht
    refine ⟨fun hn => ?_, fun call' stage'' event file ht'' hdoc => ?_⟩
    · cases hn.symm.trans ht'
    cases ht'.symm.trans ht''
    obtain hsame | ⟨hout, hearly⟩ := setsOut_step hr ht hdoc hd hs
    · exact (h.stay (hsame.trans ht.symm) htakers hb).present _ _ _ _ ht' hdoc
    · have hnone : r.takers t = [] ∧ m = 0 := by
        have hat := h.present _ _ _ _ ht hdoc
        cases stage with
        | begun | locking | reading => exact hat
        | _ => exact hearly.elim
      rw [htakers, hnone.1, hnone.2, wanting_before hb]
      exact tallyAt_setsOut (hout _ _ ht' (by rw [hdoc]; rfl)) event

theorem Tally.step (hr : r.Reachable) (h : r.Tally t m) (action : RegistryAction) :
    (r.step action).Tally t (m + (r.passes t action).toNat) := by
  by_cases hd : ∃ i, action = .deliver t i
  · obtain ⟨i, rfl⟩ := hd
    exact h.deliver hr i
  · have hd : ∀ i, action ≠ .deliver t i := fun i heq => hd ⟨i, heq⟩
    rw [passes_quiet r hd]
    by_cases hs : ∃ i accepted, action = .sent t i accepted
    · obtain ⟨i, accepted, rfl⟩ := hs
      exact h.endSending hr i accepted
    · exact h.quiet hr hd fun i accepted heq => hs ⟨i, accepted, heq⟩

theorem Tally.run (hr : r.Reachable) (h : r.Tally t m) (actions : List RegistryAction) :
    (r.run actions).Tally t (m + r.passedOver t actions) := by
  induction actions generalizing r m with
  | nil => exact h
  | cons action actions ih =>
    rw [passedOver, ← Nat.add_assoc]
    exact ih (hr.step action) (h.step hr action)

theorem Fresh.tally (hr : r.Fresh) (t : Nat) : r.Tally t 0 := by
  obtain ⟨root, configs, watch, commandExists, handshakeMs, rfl⟩ := hr
  have hnone : (ofConfigs root configs watch commandExists handshakeMs).tasks[t]? = none := rfl
  refine ⟨fun _ => ⟨rfl, rfl⟩, fun call stage event file ht => ?_⟩
  cases hnone.symm.trans ht

/-- What servers are sent for a call on a document is about that document, and they want it. -/
theorem Tally.addressee {notice : Notice} (hr : r.Reachable) (h : r.Tally t m)
    {stage : TaskStage} (ht : r.tasks[t]? = some ⟨call, stage⟩)
    (hdoc : call.document? = some (event, file))
    (hs : .accepted t u notice ∈ r.history ∨ r.IsSending t u notice) :
    ∃ e uri, r.Serves e u ∧ e ∈ r.wanting file ∧ Uri.ofPath? (r.resolve file) = some uri ∧
      notice.uri? = some uri := by
  have hat := h.present _ _ _ _ ht hdoc
  obtain hm | ⟨call', errand, ds, d, ht', hd, hst⟩ := hs
  · obtain ⟨task, errand, e, ht', hf, hsends, hserves⟩ := hr.acceptedFits t u notice hm
    cases ht.symm.trans ht'
    obtain ⟨uri, huri, hnotice⟩ := uri?_of_sends hdoc hf hsends
    refine ⟨e, uri, hserves, ?_, huri, hnotice⟩
    have he : e ∈ r.takers t := List.mem_filterMap.2 ⟨_, hm, taker?_accepted hserves⟩
    cases stage with
    | routing errand' ds =>
      obtain ⟨d, hd, rfl, -⟩ := hat.taken e he
      exact hat.wanted d hd
    | done result => exact hat.wanted e he
    | _ =>
      rw [hat.1] at he
      cases he
  · cases ht.symm.trans ht'
    obtain ⟨hf, hds, -⟩ := hr.taskFits t _ ht
    have hfits := hds d hd
    rw [hst] at hfits
    obtain ⟨uri, huri, hnotice⟩ := uri?_of_sends hdoc hf hfits.1
    exact ⟨d.entry, uri, hfits.2, hat.wanted d hd, huri, hnotice⟩

/-- A call on a document that succeeds comes to a number: that of the servers that took a
notification for it, one each, and of those that a closing passed over. All that servers are sent
for the call is about its document, and is sent to servers that want the document's file. -/
theorem counts_takers (hr : r.Fresh) (actions : List RegistryAction) {stage : TaskStage}
    (ht : (r.run actions).tasks[t]? = some ⟨call, stage⟩)
    (hdoc : call.document? = some (event, file)) :
    (∀ reply, stage = .done (.ok reply) →
      reply = .count (((r.run actions).takers t).length + r.passedOver t actions)) ∧
    (event ≠ .closed → r.passedOver t actions = 0) ∧
    ((r.run actions).takers t).Nodup ∧
    ∀ h notice, .accepted t h notice ∈ (r.run actions).history ∨
        (r.run actions).IsSending t h notice →
      ∃ e uri, (r.run actions).Serves e h ∧ e ∈ (r.run actions).wanting file ∧
        Uri.ofPath? ((r.run actions).resolve file) = some uri ∧ notice.uri? = some uri := by
  have hreach : (r.run actions).Reachable := hr.reachable.run actions
  have htally : (r.run actions).Tally t (r.passedOver t actions) := by
    rw [← Nat.zero_add (r.passedOver t actions)]
    exact (hr.tally t).run hr.reachable actions
  have hat := htally.present _ _ _ _ ht hdoc
  refine ⟨?_, ?_, ?_, fun h notice => htally.addressee hreach ht hdoc⟩
  · rintro reply rfl
    exact hat.count reply rfl
  · intro hne
    cases stage with
    | routing errand ds =>
      obtain ⟨hf, -⟩ := hreach.taskFits t _ ht
      apply hat.passed
      rintro uri rfl
      exact hne (closed_of_closing hdoc hf)
    | done result => exact hat.passed hne
    | _ => exact hat.2
  · cases stage with
    | routing errand ds => exact hat.nodup
    | done result => exact hat.nodup
    | _ =>
      rw [hat.1]
      exact List.nodup_nil

/-- A document is reported open, and another one, which is not open, is reported closed. -/
def openedAndClosed : List RegistryAction :=
  [.call (.document .opened (.ofString "a.ts")), .resume 0, .read 0 (.ok "x"), .deliver 0 0,
    .spawned 0 (.running false), .deliver 0 0, .sent 0 0 true,
    .call (.document .closed (.ofString "b.ts")), .resume 1, .deliver 1 0]

theorem counts_takers_opened :
    (oneServer.run openedAndClosed).tasks[0]? =
      some ⟨.document .opened (.ofString "a.ts"), .done (.ok (.count 1))⟩ ∧
    1 = ((oneServer.run openedAndClosed).takers 0).length +
      oneServer.passedOver 0 openedAndClosed ∧
    (oneServer.run openedAndClosed).takers 0 = [0] ∧ (oneServer.run openedAndClosed).Serves 0 0 ∧
    (oneServer.run openedAndClosed).wanting (.ofString "a.ts") = [0] := by
  have hr : oneServer.Fresh := ⟨_, _, _, _, _, rfl⟩
  have ht : (oneServer.run openedAndClosed).tasks[0]? =
    some ⟨.document .opened (.ofString "a.ts"), .done (.ok (.count 1))⟩ := rfl
  obtain ⟨hcount, -, -, -⟩ := counts_takers hr openedAndClosed ht rfl
  refine ⟨ht, RegistryReply.count.inj (hcount _ rfl), rfl, ⟨_, rfl, rfl, rfl⟩, ?_⟩
  decide +kernel

/-- The closing comes to one, though no server has taken anything for it. -/
theorem unopened_counted :
    (oneServer.run openedAndClosed).tasks[1]? =
      some ⟨.document .closed (.ofString "b.ts"), .done (.ok (.count 1))⟩ ∧
    (oneServer.run openedAndClosed).takers 1 = [] :=
  ⟨rfl, rfl⟩

end Registry
end Switchyard
