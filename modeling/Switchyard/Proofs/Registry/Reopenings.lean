import Switchyard.Proofs.Registry.Openings

namespace Switchyard

namespace Registry

variable {r r' : Registry} {t u e h i a : Nat} {uri v : String}

theorem opened_modifyEntry {f : Entry → Entry} (ho : r.Opened e v)
    (hf : e = i → ∀ x, v ∈ x.opened → v ∈ (f x).opened) : (r.modifyEntry i f).Opened e v := by
  obtain ⟨entry, he, hm⟩ := ho
  by_cases heq : e = i
  · subst heq
    exact ⟨f entry, by simp [modifyEntry, he], hf rfl entry hm⟩
  · exact ⟨entry, by simp [modifyEntry, he, Ne.symm heq], hm⟩

theorem mem_addOpened (x : Entry) (uri : String) : uri ∈ (x.addOpened uri).opened := by
  unfold Entry.addOpened
  split
  · rename_i hc
    exact List.contains_iff_mem.1 hc
  · exact List.mem_cons_self

theorem addOpened_subset (x : Entry) (uri : String) : x.opened ⊆ (x.addOpened uri).opened := by
  unfold Entry.addOpened
  split
  · exact List.Subset.refl _
  · exact List.subset_cons_self _ _

theorem opened_addOpened {entry : Entry} (he : r.entries[e]? = some entry) (uri : String) :
    (r.modifyEntry e (·.addOpened uri)).Opened e uri :=
  ⟨entry.addOpened uri, by simp [modifyEntry, he], mem_addOpened entry uri⟩

theorem opened_arrive (errand : Errand) (entry : Entry) (ho : r.Opened e v) :
    (r.arrive errand i entry h).1.Opened e v ∨ (e = i ∧ errand = .closing v ∧
      (r.arrive errand i entry h).2 = .sending h (.didClose v)) := by
  cases errand with
  | opening uri language text =>
    exact .inl (opened_modifyEntry ho fun _ x => (addOpened_subset x uri ·))
  | changing uri language text version =>
    simp only [arrive]
    split
    · exact .inl ho
    · exact .inl (opened_modifyEntry ho fun _ x => (addOpened_subset x uri ·))
  | closing uri =>
    simp only [arrive]
    split
    · by_cases heq : e = i ∧ v = uri
      · obtain ⟨rfl, rfl⟩ := heq
        exact .inr ⟨rfl, rfl, rfl⟩
      · refine .inl (opened_modifyEntry ho fun hei x hm => ?_)
        have hne : v ≠ uri := fun hv => heq ⟨hei, hv⟩
        simpa [Entry.removeOpened, hne] using hm
    · exact .inl ho
  | _ => exact .inl ho

theorem opened_advance {d : Delivery} {entry : Entry} (errand : Errand)
    (he : r.entries[d.entry]? = some entry) (ho : r.Opened e v) (hi : r.Installed e h) :
    (r.advance errand d entry).1.Opened e v ∨ (e = d.entry ∧ errand = .closing v ∧
      ((r.advance errand d entry).2 = .sending h (.didClose v) ∨ ∃ a, d.stage = .starting a)) := by
  unfold advance
  split
  · unfold seek
    split
    · split
      · rename_i uri _ i hh
        obtain hop | ⟨heq, hc, hs⟩ := opened_arrive (i := d.entry) (h := i) (.closing uri) entry ho
        · exact .inl hop
        · obtain ⟨x, hx, hst⟩ := hi
          rw [heq] at hx
          cases he.symm.trans hx
          have hih : i = h := by
            simp only [Entry.handle?, hst] at hh
            exact (Option.some.inj hh).symm
          rw [hih] at hs ⊢
          exact .inr ⟨heq, hc, .inl hs⟩
      · exact .inl ho
    · rename_i hn
      split
      · exact .inl ho
      · split
        · exact .inl ((opened_arrive errand entry ho).resolve_right fun hc => hn _ hc.2.1)
        · exact .inl ho
        · exact .inl (opened_modifyEntry (r := { r with attempts := _ }) ho fun _ _ hm => hm)
  · rename_i a hs
    split
    · exact .inl ho
    · obtain hop | ⟨heq, hc, _⟩ := opened_arrive (i := d.entry) errand entry ho
      · exact .inl hop
      · exact .inr ⟨heq, hc, .inr ⟨a, hs⟩⟩
    · exact .inl ho
  · exact .inl ho

theorem arrive_opens {errand : Errand} {entry : Entry} {stage : TurnStage}
    (he : r.entries[e]? = some entry) (ht : errand.turn? = some (uri, stage))
    (hothers : ∀ i, r.Installed e i → i ≠ h → ¬ r.HasOpen i uri)
    (hnew : errand.isChange = true → uri ∉ entry.opened → ¬ r.HasOpen h uri) :
    (r.arrive errand e entry h).1.DeliveryOpens errand uri e
      (r.arrive errand e entry h).2 := by
  have hinstalled (i : Nat) (hi : (r.arrive errand e entry h).1.Installed e i) :
      r.Installed e i :=
    hi.of_servers (servers_arrive r errand e entry h)
  have hopen (i : Nat) (ho : (r.arrive errand e entry h).1.HasOpen i uri) : r.HasOpen i uri := by
    unfold HasOpen at ho
    rwa [traffic_arrive] at ho
  have hothers' (i : Nat) (hi : (r.arrive errand e entry h).1.Installed e i) (hne : i ≠ h) :
      ¬ (r.arrive errand e entry h).1.HasOpen i uri :=
    fun ho => hothers i (hinstalled i hi) hne (hopen i ho)
  cases errand with
  | start => cases ht
  | telling method params => cases ht
  | opening u language text =>
    cases ht
    exact ⟨hothers',
      fun _ => ⟨fun _ => opened_addOpened he uri, fun hc => absurd hc Bool.false_ne_true⟩⟩
  | changing u language text version =>
    cases ht
    simp only [arrive] at hothers' hopen ⊢
    split
    · rename_i hc
      rw [if_pos hc] at hothers'
      exact ⟨hothers', fun hn => absurd hn Bool.false_ne_true⟩
    · rename_i hc
      rw [if_neg hc] at hothers' hopen
      refine ⟨hothers', fun _ => ⟨fun _ => opened_addOpened he uri, fun _ ho => ?_⟩⟩
      exact hnew rfl (fun hm => hc (List.contains_iff_mem.2 hm)) (hopen h ho)
  | closing u =>
    cases ht
    simp only [arrive] at hothers' ⊢
    split
    · rename_i hc
      rw [if_pos hc] at hothers'
      exact ⟨hothers', fun hn => absurd hn Bool.false_ne_true⟩
    · trivial

theorem beginAttempt_opens {entry : Entry} (errand : Errand) (uri : String)
    (he : r.entries[e]? = some entry) :
    (r.beginAttempt e entry).DeliveryOpens errand uri e (.starting r.attempts.length) := by
  rintro h (⟨x, hx, hst⟩ | hout)
  · have hnew : (r.beginAttempt e entry).entries[e]? = some { entry with
        slot := { entry.slot with
          state := .starting r.attempts.length, generation := entry.slot.generation + 1 } } := by
      simp [beginAttempt, note, modifyEntry, he]
    cases hx.symm.trans hnew
    cases hst
  · simp [outcome?, beginAttempt, note, modifyEntry] at hout

/-- A change finds a document on record that the server has open, since no closing of the document
is under way then. -/
theorem OpeningsFit.on_record {call : RegistryCall} {errand : Errand} {ds : List Delivery}
    {entry : Entry} {stage : TurnStage} (hx : r.OpeningsFit) (hr : r.Reachable)
    (ht : r.tasks[t]? = some ⟨call, .routing errand ds⟩) (hturn : errand.turn? = some (uri, stage))
    (hc : errand.isChange = true) (he : r.entries[e]? = some entry) (hi : r.Installed e h)
    (ho : r.HasOpen h uri) : uri ∈ entry.opened := by
  obtain ⟨x, hentry, hm⟩ | ⟨u, hs⟩ := hx.installed hi ho
  · cases he.symm.trans hentry
    exact hm
  · obtain ⟨call', ds', hu⟩ := hs.closing hr
    obtain rfl := routing_unique hr ht hu hturn rfl
    cases ht.symm.trans hu
    cases hc

theorem OpeningsFit.advance {call : RegistryCall} {errand : Errand} {ds : List Delivery}
    {d : Delivery} {entry : Entry} {stage : TurnStage} (hx : r.OpeningsFit) (hr : r.Reachable)
    (ht : r.tasks[t]? = some ⟨call, .routing errand ds⟩) (hd : d ∈ ds)
    (hturn : errand.turn? = some (uri, stage)) (he : r.entries[d.entry]? = some entry) :
    (r.advance errand d entry).1.DeliveryOpens errand uri d.entry
      (r.advance errand d entry).2 := by
  have hold := hx.delivery ht hd hturn
  have hfound {h : Nat} (hst : entry.slot.state = .started h) :
      (r.arrive errand d.entry entry h).1.DeliveryOpens errand uri d.entry
        (r.arrive errand d.entry entry h).2 := by
    have hi : r.Installed d.entry h := ⟨entry, he, hst⟩
    refine arrive_opens he hturn (fun i hi' hne => absurd (hi'.handle_unique hi) hne) ?_
    exact fun hc hn ho => hn (hx.on_record hr ht hturn hc he hi ho)
  obtain ⟨e, old⟩ := d
  cases old with
  | done outcome => exact hold
  | sending h notice => exact hold
  | starting a =>
    simp only [Registry.advance]
    split
    · exact hold
    · rename_i h hout
      exact arrive_opens he hturn (fun i hi _ => hold i (.inl hi)) fun _ _ => hold h (.inr hout)
    · trivial
  | begun =>
    simp only [Registry.advance, seek]
    split
    · split
      · rename_i h hh
        exact hfound (Slot.handle?_eq_some.1 hh)
      · trivial
    · split
      · trivial
      · split
        · rename_i h hst
          exact hfound hst
        · rename_i a hst
          rintro h (⟨x, hentry, hst'⟩ | hout)
          · cases he.symm.trans hentry
            cases hst.symm.trans hst'
          · have ha := hr.sound.starting (slot_of_entry he) hst
            have hn : r.outcome? a = none := by
              simp only [outcome?, show r.attempts[a]? = _ from ha, Option.bind_some]
            cases hn.symm.trans hout
        · exact beginAttempt_opens errand uri he

theorem isSending_setDelivery {call : RegistryCall} {errand : Errand} {ds : List Delivery}
    {d : Delivery} {stage : DeliveryStage} {notice : Notice} {j : Nat}
    (ht : r.tasks[t]? = some ⟨call, .routing errand ds⟩) (hj : ds[j]? = some d)
    (hs : (i = j ∧ stage = .sending h notice) ∨
      (i ≠ j ∧ ∃ x, ds[i]? = some x ∧ x.stage = .sending h notice)) :
    (r.setDelivery t errand ds j stage).IsSending t h notice := by
  obtain ⟨e, old⟩ := d
  obtain ⟨ds', hnew, hother, _, hdone⟩ := task_setDelivery errand stage ht hj
  have hx : ∃ x, ds'[i]? = some x ∧ x.stage = .sending h notice := by
    obtain ⟨rfl, rfl⟩ | ⟨hne, x, hx, hst⟩ := hs
    · exact ⟨_, hnew, rfl⟩
    · exact ⟨x, (hother i hne).trans hx, hst⟩
  obtain ⟨x, hx, hst⟩ := hx
  have hm := List.mem_of_getElem? hx
  obtain ⟨_, h⟩ | ⟨hall, _⟩ := hdone
  · exact ⟨call, errand, ds', x, h, hm, hst⟩
  · have hd := List.all_eq_true.1 hall x hm
    rw [hst] at hd
    cases hd

theorem tasks_setDelivery_of_ne (ht : r'.tasks = r.tasks) (hne : u ≠ t) (errand : Errand)
    (ds : List Delivery) (i : Nat) (stage : DeliveryStage) :
    (r'.setDelivery t errand ds i stage).tasks[u]? = r.tasks[u]? :=
  (((Advances.of_tasks ht).setStage _).finish).other hne

section SetDelivery

variable {call : RegistryCall} {errand : Errand} {ds : List Delivery} {d : Delivery}
variable {stage : DeliveryStage} {notice : Notice}
variable (ht' : r'.tasks = r.tasks) (ht : r.tasks[t]? = some ⟨call, .routing errand ds⟩)
variable (hd : ds[i]? = some d)

include ht' ht hd

theorem IsSending.setDelivery (hs : r.IsSending u h notice) :
    (r'.setDelivery t errand ds i stage).IsSending u h notice ∨
      (u = t ∧ d.stage = .sending h notice) := by
  obtain ⟨call', errand', ds', x, hu, hm, hst⟩ := hs
  by_cases heq : u = t
  · subst heq
    cases ht.symm.trans hu
    obtain ⟨k, hk⟩ := List.mem_iff_getElem?.1 hm
    by_cases hki : k = i
    · subst hki
      cases hd.symm.trans hk
      exact .inr ⟨rfl, hst⟩
    · have hr : r'.tasks[u]? = some ⟨call, .routing errand ds⟩ := by rw [ht', ht]
      exact .inl (isSending_setDelivery hr hd (.inr ⟨hki, x, hk, hst⟩))
  · have hr := (tasks_setDelivery_of_ne ht' heq errand ds i stage).trans hu
    exact .inl ⟨call', errand', ds', x, hr, hm, hst⟩

theorem deliveries_setDelivery {call' : RegistryCall} {errand' : Errand} {ds' : List Delivery}
    {d' : Delivery} (hr : r.Reachable)
    (hu : (r'.setDelivery t errand ds i stage).tasks[u]? = some ⟨call', .routing errand' ds'⟩)
    (hm : d' ∈ ds') :
    (errand' = errand ∧ d' = ⟨d.entry, stage⟩) ∨
      ∃ old, r.tasks[u]? = some ⟨call', .routing errand' old⟩ ∧ d' ∈ old ∧
        (u = t → d'.entry ≠ d.entry) := by
  by_cases heq : u = t
  · subst heq
    have hr' : r'.tasks[u]? = some ⟨call, .routing errand ds⟩ := by rw [ht', ht]
    obtain ⟨e, st⟩ := d
    obtain ⟨new, hnew, hother, _, ⟨_, h⟩ | ⟨_, h⟩⟩ := task_setDelivery errand stage hr' hd
    · cases hu.symm.trans h
      obtain ⟨k, hk⟩ := List.mem_iff_getElem?.1 hm
      by_cases hki : k = i
      · subst hki
        cases hnew.symm.trans hk
        exact .inl ⟨rfl, rfl⟩
      · rw [hother k hki] at hk
        refine .inr ⟨ds, ht, List.mem_of_getElem? hk, fun _ he => hki ?_⟩
        exact delivery_unique hr ht hk hd he
    · cases hu.symm.trans h
  · rw [tasks_setDelivery_of_ne ht' heq] at hu
    exact .inr ⟨ds', hu, hm, fun h => absurd h heq⟩

/-- A delivery of an errand on a document, after one has gone on, is that one or does not deal with
the document of that one at its entry. -/
theorem others_setDelivery {call' : RegistryCall} {errand' : Errand} {ds' : List Delivery}
    {d' : Delivery} {st : TurnStage} (hr : r.Reachable)
    (hu : (r'.setDelivery t errand ds i stage).tasks[u]? = some ⟨call', .routing errand' ds'⟩)
    (hm : d' ∈ ds') (hturn : errand'.turn? = some (uri, st)) :
    (errand' = errand ∧ d' = ⟨d.entry, stage⟩) ∨
      ∃ old, r.tasks[u]? = some ⟨call', .routing errand' old⟩ ∧ d' ∈ old ∧
        ¬ (d'.entry = d.entry ∧ ∃ st, errand.turn? = some (uri, st)) := by
  refine (deliveries_setDelivery ht' ht hd hr hu hm).imp_right ?_
  rintro ⟨old, hold, hm', hne⟩
  refine ⟨old, hold, hm', ?_⟩
  rintro ⟨he, st', hturn'⟩
  exact hne (routing_unique hr hold ht hturn hturn') he

/-- Deliveries stand as they should once one has gone on, if that one does and what was done
concerns its document at its entry only. -/
theorem OpeningsFit.setDelivery (hx : r.OpeningsFit) (hr : r.Reachable)
    (ha : Servers.Arrives r.servers (r'.setDelivery t errand ds i stage).servers)
    (hown : ∀ uri st, errand.turn? = some (uri, st) →
      (r'.setDelivery t errand ds i stage).DeliveryOpens errand uri d.entry stage)
    (hk : ∀ e h uri, ¬ (e = d.entry ∧ ∃ st, errand.turn? = some (uri, st)) → r.Installed e h →
      r.Opened e uri → (r'.setDelivery t errand ds i stage).Opened e uri)
    (ho : ∀ e h uri, ¬ (e = d.entry ∧ ∃ st, errand.turn? = some (uri, st)) →
      (r'.setDelivery t errand ds i stage).HasOpen h uri → r.Serves e h → r.HasOpen h uri)
    (hl : ∀ h uri, (r'.setDelivery t errand ds i stage).HasOpen h uri → h < r.handles.length)
    {call' : RegistryCall} {errand' : Errand} {ds' : List Delivery} {d' : Delivery}
    {st : TurnStage}
    (hu : (r'.setDelivery t errand ds i stage).tasks[u]? = some ⟨call', .routing errand' ds'⟩)
    (hm : d' ∈ ds') (hturn : errand'.turn? = some (uri, st)) :
    (r'.setDelivery t errand ds i stage).DeliveryOpens errand' uri d'.entry d'.stage := by
  obtain ⟨rfl, rfl⟩ | ⟨old, hold, hm', huntouched⟩ :=
    others_setDelivery ht' ht hd hr hu hm hturn
  · exact hown uri st hturn
  · obtain ⟨_, hfits, _⟩ := hr.taskFits u _ hold
    exact (hx.delivery hold hm' hturn).keep hr (hfits d' hm') ha
      (fun h hi _ => hk d'.entry h uri huntouched hi)
      (fun h => ho d'.entry h uri huntouched) fun h => hl h uri

end SetDelivery

theorem entries_setDelivery (r : Registry) (t : Nat) (errand : Errand) (ds : List Delivery)
    (i : Nat) (stage : DeliveryStage) :
    (r.setDelivery t errand ds i stage).entries = r.entries :=
  entries_finish _ t

theorem Opened.of_entries (ho : r.Opened e uri) (he : r'.entries = r.entries) :
    r'.Opened e uri := by
  rwa [Opened, he]

theorem hasOpen_of_traffic (ho : r'.HasOpen h uri) (ht : r'.traffic.2 = r.traffic.2) :
    r.HasOpen h uri := by
  rwa [HasOpen, ht] at ho

/-- What a delivery that goes on is told of, where that is all there is to tell. -/
theorem DeliveryOpens.of_same {errand : Errand} {stage : DeliveryStage}
    (hd : r.DeliveryOpens errand uri e stage) (he : r'.entries = r.entries)
    (ha : r'.attempts = r.attempts) (ht : r'.traffic.2 = r.traffic.2) :
    r'.DeliveryOpens errand uri e stage := by
  cases stage with
  | begun => trivial
  | done outcome => trivial
  | starting a => simpa only [DeliveryOpens, Installed, outcome?, HasOpen, he, ha, ht] using hd
  | sending h notice => simpa only [DeliveryOpens, Installed, Opened, HasOpen, he, ht] using hd

theorem OpeningsFit.deliver (hx : r.OpeningsFit) (hr : r.Reachable) (t i : Nat) :
    (r.deliver t i).OpeningsFit := by
  have harrives : Servers.Arrives r.servers (r.deliver t i).servers :=
    (servers_steps r (.deliver t i)).arrives
  have hl (h : Nat) (uri : String) (ho : (r.deliver t i).HasOpen h uri) : h < r.handles.length :=
    hasOpen_lt_step hr (.deliver t i) ho
  have htraffic : (r.deliver t i).traffic.2 = r.traffic.2 :=
    congrArg Prod.snd (traffic_deliver r t i)
  obtain heq | ⟨call, errand, ds, d, entry, ht, hd, he, heq⟩ := deliver_cases r t i
  · rwa [heq]
  rw [heq] at harrives hl htraffic ⊢
  have htasks := tasks_advance r errand d entry
  have hm := List.mem_of_getElem? hd
  have hentries := entries_setDelivery (r.advance errand d entry).1 t errand ds i
    (r.advance errand d entry).2
  constructor
  case delivery =>
    refine hx.setDelivery htasks ht hd hr harrives (fun uri st hturn => ?_) ?_ ?_ hl
    · refine (hx.advance hr ht hm hturn he).of_same hentries (attempts_finish _ t) ?_
      exact htraffic.trans (congrArg Prod.snd (traffic_advance r errand d entry)).symm
    · intro e h uri hun hi hop
      obtain hop | ⟨rfl, rfl, _⟩ := opened_advance errand he hop hi
      · exact hop.of_entries hentries
      · exact absurd ⟨rfl, _, rfl⟩ hun
    · intro e h uri _ ho _
      exact hasOpen_of_traffic ho htraffic
  case installed =>
    intro e h uri hi ho
    have hi' := hi.earlier harrives (hl h uri ho)
    have ho' := hasOpen_of_traffic ho htraffic
    have hr' : (r.advance errand d entry).1.tasks[t]? = some ⟨call, .routing errand ds⟩ := by
      rw [htasks, ht]
    obtain hop | ⟨u, hs⟩ := hx.installed hi' ho'
    · obtain hop | ⟨rfl, rfl, hs | ⟨a, ha⟩⟩ := opened_advance errand he hop hi'
      · exact .inl (hop.of_entries hentries)
      · exact .inr ⟨t, isSending_setDelivery hr' hd (.inl ⟨rfl, hs⟩)⟩
      · have hopens := hx.delivery ht hm rfl
        rw [ha] at hopens
        exact absurd ho' (hopens h (.inl hi'))
    · obtain hs | ⟨rfl, hst⟩ := hs.setDelivery htasks ht hd
      · exact .inr ⟨u, hs⟩
      · refine .inr ⟨u, isSending_setDelivery hr' hd (.inl ⟨rfl, ?_⟩)⟩
        simp only [Registry.advance, hst]

def alive (r : Registry) (h : Nat) : Bool := (r.handles[h]?).any (!·.disposed)

def sendsToLiving (r : Registry) (t i : Nat) : Bool :=
  match r.tasks[t]? with
  | some ⟨_, .routing _ ds⟩ =>
    match ds[i]? with
    | some ⟨_, .sending h _⟩ => r.alive h
    | _ => false
  | _ => false

def obliges (r : Registry) : RegistryAction → Bool
  | .sent t i accepted => accepted || !r.sendsToLiving t i
  | _ => true

theorem Installed.alive (hi : r.Installed e h) (hr : r.Reachable) : r.alive h = true := by
  obtain ⟨g, hh⟩ := hi.handle hr
  simp [Registry.alive, hh]

theorem sent_of_alive {notice : Notice} (ha : r.alive h = true) :
    r.sent t e h notice true = (r.note (.accepted t h notice), .done (.accepted h)) := by
  obtain ⟨handle, hh, hd⟩ := (Option.any_eq_true _ _).1 ha
  have hd : handle.disposed = false := by simpa using hd
  simp [sent, hh, hd]

theorem sent_of_not_alive (ha : r.alive h = false) (t e : Nat) (notice : Notice) (accepted : Bool) :
    (r.sent t e h notice accepted).2 = .done .declined ∧
      (r.sent t e h notice accepted).1.traffic = r.traffic ∧
      ∀ e' uri, r.Opened e' uri → (r.sent t e h notice accepted).1.Opened e' uri ∨
        (e' = e ∧ ∃ language version text, notice = .didOpen uri language version text) := by
  have halive : ((r.handles[h]?).map fun x => !x.disposed).getD false = false := by
    cases hh : r.handles[h]? with
    | none => rfl
    | some handle => simpa [Registry.alive, hh] using ha
  simp only [sent, halive, Bool.and_false, Bool.false_eq_true, if_false]
  cases notice with
  | didOpen u language version text =>
    refine ⟨rfl, rfl, fun e' uri ho => ?_⟩
    by_cases heq : e' = e ∧ uri = u
    · obtain ⟨rfl, rfl⟩ := heq
      exact .inr ⟨rfl, language, version, text, rfl⟩
    · refine .inl (opened_modifyEntry ho fun he x hm => ?_)
      have hne : uri ≠ u := fun hu => heq ⟨he, hu⟩
      simpa [Entry.removeOpened, hne] using hm
  | _ => exact ⟨rfl, rfl, fun _ _ ho => .inl ho⟩

section EndSending

variable {call : RegistryCall} {errand : Errand} {ds : List Delivery} {notice : Notice}
variable (hx : r.OpeningsFit) (hr : r.Reachable)
variable (ht : r.tasks[t]? = some ⟨call, .routing errand ds⟩)
variable (hd : ds[i]? = some ⟨e, .sending h notice⟩)

include hx hr ht hd

omit hx hr hd in
theorem servers_setDelivery_of_eq (hs : r'.servers = r.servers) (htasks : r'.tasks = r.tasks)
    (stage : DeliveryStage) : (r'.setDelivery t errand ds i stage).servers = r.servers := by
  have hq : r.Quiet t := quiet_of_getElem ht rfl
  rw [servers_setDelivery (hq.of_tasks htasks), hs]

theorem OpeningsFit.accepted :
    ((r.note (.accepted t h notice)).setDelivery t errand ds i
      (.done (.accepted h))).OpeningsFit := by
  have hm := List.mem_of_getElem? hd
  obtain ⟨_, hfits, _⟩ := hr.taskFits t _ ht
  obtain ⟨hsends, hserves⟩ : errand.Sends notice ∧ r.Serves e h := hfits _ hm
  have htasks : (r.note (.accepted t h notice)).tasks = r.tasks := rfl
  have hsame : (r.note (.accepted t h notice)).servers = r.servers := rfl
  have hservers := servers_setDelivery_of_eq ht hsame htasks (i := i) (.done (.accepted h))
  have hentries := entries_setDelivery (r.note (.accepted t h notice)) t errand ds i
    (.done (.accepted h))
  have htraffic : ((r.note (.accepted t h notice)).setDelivery t errand ds i
      (.done (.accepted h))).traffic.2 = .accepted t h notice :: r.traffic.2 := by
    rw [traffic_setDelivery]
    rfl
  have hopen {j : Nat} {uri : String} (ho : ((r.note (.accepted t h notice)).setDelivery t errand
      ds i (.done (.accepted h))).HasOpen j uri) : r.HasOpen j uri ∨
        (j = h ∧ ∃ language version text, notice = .didOpen uri language version text) := by
    rw [HasOpen, htraffic] at ho
    obtain ho | ho := RegistryEvent.hasOpen_cons ho
    · exact .inl ho
    · obtain ⟨_, language, version, text, heq⟩ := RegistryEvent.opens?_eq_some_true ho
      cases heq
      exact .inr ⟨rfl, language, version, text, rfl⟩
  constructor
  case delivery =>
    refine hx.setDelivery htasks ht hd hr ?_ ?_ ?_ ?_ ?_
    · rw [hservers]
      exact .refl _
    · exact fun _ _ _ => trivial
    · intro e' h' uri' _ _ hop
      exact hop.of_entries hentries
    · intro e' h' uri' hun ho hs'
      obtain ho | ⟨rfl, language, version, text, rfl⟩ := hopen ho
      · exact ho
      · exact absurd ⟨hs'.unique hserves, Errand.turn?_of_sends hsends rfl⟩ hun
    · intro h' uri' ho
      obtain ho | ⟨rfl, _⟩ := hopen ho
      · exact ho.lt hr
      · exact hserves.lt
  case installed =>
    intro e' j uri hi ho
    have hi' := hi.of_servers hservers
    obtain ho' | ⟨rfl, language, version, text, rfl⟩ := hopen ho
    · obtain hop | ⟨u, hs⟩ := hx.installed hi' ho'
      · exact .inl (hop.of_entries hentries)
      · obtain hs | ⟨rfl, hst⟩ := hs.setDelivery htasks ht hd
        · exact .inr ⟨u, hs⟩
        · cases hst
          rw [HasOpen, htraffic,
            RegistryEvent.hasOpen_closed (by simp [RegistryEvent.opens?])] at ho
          cases ho
    · obtain rfl := (hi'.serves hr).unique hserves
      obtain ⟨st, hturn⟩ := Errand.turn?_of_sends hsends rfl
      have hopens := (hx.delivery ht hm hturn).2 rfl
      exact .inl ((hopens.1 hi').of_entries hentries)

/-- A server that has been ended takes nothing, and is not the one that its entry has. -/
theorem OpeningsFit.declined (ha : r.alive h = false) (accepted : Bool) :
    ((r.sent t e h notice accepted).1.setDelivery t errand ds i (.done .declined)).OpeningsFit := by
  have hm := List.mem_of_getElem? hd
  obtain ⟨_, hfits, _⟩ := hr.taskFits t _ ht
  obtain ⟨hsends, hserves⟩ : errand.Sends notice ∧ r.Serves e h := hfits _ hm
  obtain ⟨_, htraffic, hopened⟩ := sent_of_not_alive ha t e notice accepted
  have htasks := tasks_sent r t e h notice accepted
  have hservers := servers_setDelivery_of_eq ht (servers_sent r t e h notice accepted) htasks
    (i := i) (.done .declined)
  have hentries := entries_setDelivery (r.sent t e h notice accepted).1 t errand ds i
    (.done .declined)
  have htraffic' := (traffic_setDelivery (r.sent t e h notice accepted).1 t errand ds i
    (.done .declined)).trans htraffic
  have hopen {j : Nat} {uri : String} (ho : ((r.sent t e h notice accepted).1.setDelivery t errand
      ds i (.done .declined)).HasOpen j uri) : r.HasOpen j uri :=
    hasOpen_of_traffic ho (congrArg Prod.snd htraffic')
  constructor
  case delivery =>
    refine hx.setDelivery htasks ht hd hr ?_ ?_ ?_ (fun _ _ _ _ ho _ => hopen ho)
      fun _ _ ho => (hopen ho).lt hr
    · rw [hservers]
      exact .refl _
    · exact fun _ _ _ => trivial
    · intro e' h' uri hun _ hop
      obtain hop | ⟨rfl, language, version, text, rfl⟩ := hopened e' uri hop
      · exact hop.of_entries hentries
      · exact absurd ⟨rfl, Errand.turn?_of_sends hsends rfl⟩ hun
  case installed =>
    intro e' j uri hi ho
    have hi' := hi.of_servers hservers
    have hne : j ≠ h := by
      rintro rfl
      cases ha.symm.trans (hi'.alive hr)
    have ho' := hopen ho
    obtain hop | ⟨u, hs⟩ := hx.installed hi' ho'
    · obtain hop | ⟨rfl, language, version, text, rfl⟩ := hopened e' uri hop
      · exact .inl (hop.of_entries hentries)
      · obtain ⟨st, hturn⟩ := Errand.turn?_of_sends hsends rfl
        exact absurd ho' ((hx.delivery ht hm hturn).1 j hi' hne)
    · obtain hs | ⟨rfl, hst⟩ := hs.setDelivery htasks ht hd
      · exact .inr ⟨u, hs⟩
      · cases hst
        exact absurd rfl hne

end EndSending

theorem OpeningsFit.endSending (hx : r.OpeningsFit) (hr : r.Reachable) {accepted : Bool}
    (hb : r.obliges (.sent t i accepted) = true) : (r.endSending t i accepted).OpeningsFit := by
  obtain heq | ⟨call, errand, ds, e, h, notice, ht, hd, heq⟩ := endSending_cases r t i accepted
  · rwa [heq]
  rw [heq]
  cases ha : r.alive h with
  | false =>
    rw [(sent_of_not_alive ha t e notice accepted).1]
    exact hx.declined hr ht hd ha accepted
  | true =>
    have hacc : accepted = true := by simpa [obliges, sendsToLiving, ht, hd, ha] using hb
    rw [hacc, sent_of_alive ha]
    exact hx.accepted hr ht hd

theorem OpeningsFit.step {action : RegistryAction} (hx : r.OpeningsFit) (hr : r.Reachable)
    (hb : r.obliges action = true) : (r.step action).OpeningsFit := by
  by_cases hd : ∃ t i, action = .deliver t i
  · obtain ⟨t, i, rfl⟩ := hd
    exact hx.deliver hr t i
  by_cases hs : ∃ t i accepted, action = .sent t i accepted
  · obtain ⟨t, i, accepted, rfl⟩ := hs
    exact hx.endSending hr hb
  exact hx.quiet hr (fun t i heq => hd ⟨t, i, heq⟩)
    fun t i accepted heq => hs ⟨t, i, accepted, heq⟩

theorem Fresh.openingsFit (hr : r.Fresh) : r.OpeningsFit := by
  obtain ⟨root, configs, watch, commandExists, handshakeMs, rfl⟩ := hr
  constructor
  · intro t call errand ds d uri stage ht
    cases ht
  · intro e h uri _ ho
    cases ho

/-- Every server takes what it is sent for as long as it is alive. -/
def obligesAll (r : Registry) : List RegistryAction → Bool
  | [] => true
  | action :: actions => r.obliges action && (r.step action).obligesAll actions

/-- A server that accepts an opening of a document that it has open is told of it for a call that
reports the document as opened. -/
def ReopeningsReported (r : Registry) : Prop :=
  ∀ (t h : Nat) (uri language text : String) (version : Int32) (before : List RegistryEvent),
    .accepted t h (.didOpen uri language version text) :: before <:+ r.traffic.2 →
      RegistryEvent.hasOpen before h uri = true →
        ∃ task file, r.tasks[t]? = some task ∧ task.call.document? = some (.opened, file)

theorem OpeningsFit.reported {language text : String} {version : Int32} (hx : r.OpeningsFit)
    (hr : r.Reachable) (hs : r.IsSending t h (.didOpen uri language version text))
    (ho : r.HasOpen h uri) :
    ∃ task file, r.tasks[t]? = some task ∧ task.call.document? = some (.opened, file) := by
  obtain ⟨call, errand, ds, d, ht, hd, hst⟩ := hs
  obtain ⟨hcall, hfits, _⟩ := hr.taskFits t _ ht
  have hsends := hfits d hd
  rw [hst] at hsends
  obtain ⟨stage, hturn⟩ := Errand.turn?_of_sends hsends.1 rfl
  have hopens := hx.delivery ht hd hturn
  rw [hst] at hopens
  cases errand with
  | opening u l x =>
    obtain ⟨path, file, hdoc, _⟩ := hcall
    exact ⟨_, file, ht, hdoc⟩
  | changing u l x n => exact absurd ho ((hopens.2 rfl).2 rfl)
  | closing u => cases hsends.1
  | start => cases hturn
  | telling method params => cases hturn

theorem reported_step {action : RegistryAction} (hp : r.ReopeningsReported) (hr : r.Reachable)
    (hx : r.OpeningsFit) : (r.step action).ReopeningsReported := by
  intro t h uri language text version before hs ho
  have hkept {task : Task} {file : Path} (ht : r.tasks[t]? = some task)
      (hdoc : task.call.document? = some (.opened, file)) :
      ∃ task file, (r.step action).tasks[t]? = some task ∧
        task.call.document? = some (.opened, file) := by
    obtain ⟨task', ht', hcall⟩ := calls_step r action t task ht
    exact ⟨task', file, ht', hcall ▸ hdoc⟩
  have hold (hs : .accepted t h (.didOpen uri language version text) :: before <:+ r.traffic.2) :
      ∃ task file, (r.step action).tasks[t]? = some task ∧
        task.call.document? = some (.opened, file) := by
    obtain ⟨task, file, ht, hdoc⟩ := hp t h uri language text version before hs ho
    exact hkept ht hdoc
  obtain heq | ⟨u, i, notice, hsending, heq⟩ | ⟨i, method, params, rfl⟩ | ⟨call, rfl⟩ :=
    traffic_step r action
  · rw [heq] at hs
    exact hold hs
  · rw [heq] at hs
    obtain hcons | hs := List.suffix_cons_iff.1 hs
    · cases hcons
      obtain ⟨task, file, ht, hdoc⟩ := hx.reported hr hsending ho
      exact hkept ht hdoc
    · exact hold hs
  · obtain ⟨hub, heq⟩ := receive_eq r i method params
    rw [step, heq] at hs
    exact hold hs
  · exact hold hs

/-- If every server takes what it is sent for as long as it is alive, then one that has a document
open accepts another opening of it only for a call that reports the document as opened, and never
for one that reports a change. -/
theorem reopening_reported (hr : r.Fresh) {actions : List RegistryAction}
    (hb : r.obligesAll actions = true) {language text : String} {version : Int32}
    {before : List RegistryEvent}
    (hs : .accepted t h (.didOpen uri language version text) :: before <:+ (r.run actions).history)
    (ho : RegistryEvent.hasOpen before h uri = true) :
    ∃ task file, (r.run actions).tasks[t]? = some task ∧
      task.call.document? = some (.opened, file) := by
  have hp : (r.run actions).ReopeningsReported := by
    have hstart : r.ReopeningsReported := by
      obtain ⟨root, configs, watch, commandExists, handshakeMs, rfl⟩ := hr
      intro t h uri language text version before hs
      cases List.suffix_nil.1 hs
    have hreach := hr.reachable
    have hx := hr.openingsFit
    clear hr hs
    induction actions generalizing r with
    | nil => exact hstart
    | cons action actions ih =>
      rw [obligesAll, Bool.and_eq_true] at hb
      exact ih hb.2 (reported_step hstart hreach hx) (hreach.step action) (hx.step hreach hb.1)
  have hs' := hs.filter (·.isAcceptance)
  rw [List.filter_cons_of_pos rfl] at hs'
  exact hp t h uri language text version _ hs' (by rwa [RegistryEvent.hasOpen_filter])

def openedTwice : List RegistryAction :=
  [.call (.document .opened (.ofString "a.ts")), .resume 0, .read 0 (.ok "x"), .deliver 0 0,
    .spawned 0 (.running false), .deliver 0 0, .sent 0 0 true,
    .call (.document .opened (.ofString "a.ts")), .resume 1, .read 1 (.ok "x"), .deliver 1 0,
    .sent 1 0 true]

/-- The server accepts an opening of the document for either report, with no closing between. -/
theorem reopened : oneServer.obligesAll openedTwice = true ∧
    (oneServer.run openedTwice).history =
      [.accepted 1 0 (.didOpen "file:///w/a.ts" "typescript" 1 "x"),
        .accepted 0 0 (.didOpen "file:///w/a.ts" "typescript" 1 "x"), .spawning 0] :=
  ⟨by decide, rfl⟩

theorem reopening_reported_twice :
    RegistryEvent.hasOpen ((oneServer.run openedTwice).history.drop 1) 0 "file:///w/a.ts" = true ∧
      ∃ task file, (oneServer.run openedTwice).tasks[1]? = some task ∧
        task.call.document? = some (.opened, file) := by
  have hr : oneServer.Fresh := ⟨_, _, _, _, _, rfl⟩
  have ho : RegistryEvent.hasOpen ((oneServer.run openedTwice).history.drop 1) 0
      "file:///w/a.ts" = true := by decide
  have hs : .accepted 1 0 (.didOpen "file:///w/a.ts" "typescript" 1 "x") ::
      (oneServer.run openedTwice).history.drop 1 <:+ (oneServer.run openedTwice).history :=
    ⟨[], rfl⟩
  exact ⟨ho, reopening_reported hr (by decide) hs ho⟩

end Registry

end Switchyard
