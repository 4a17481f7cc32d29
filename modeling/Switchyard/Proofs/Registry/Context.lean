import Switchyard.Proofs.Registry.Records

namespace Switchyard

namespace Notice

def presumed? : Notice → Option String
  | .didChange uri _ _ | .didClose uri => some uri
  | _ => none

end Notice

namespace RegistryEvent

variable {events events' : List RegistryEvent} {h : Nat} {uri : String}

/-- A server has taken an opening of a document after its shutdown had begun. -/
def OpenedLate (events : List RegistryEvent) (h : Nat) (uri : String) : Prop :=
  ∃ (t : Nat) (language : String) (version : Int32) (text : String) (before : List RegistryEvent),
    .accepted t h (.didOpen uri language version text) :: before <:+ events ∧
      .shuttingDown h ∈ before

theorem OpenedLate.mono (ho : OpenedLate events h uri) (hs : events <:+ events') :
    OpenedLate events' h uri := by
  obtain ⟨t, language, version, text, before, ha, hm⟩ := ho
  exact ⟨t, language, version, text, before, ha.trans hs, hm⟩

theorem opens?_eq_some_false {event : RegistryEvent} (ho : event.opens? h uri = some false) :
    ∃ t, event = .accepted t h (.didClose uri) := by
  unfold opens? at ho
  split at ho
  · split at ho <;> cases ho
  · split at ho
    · rename_i t i u heq
      obtain ⟨rfl, rfl⟩ := heq
      exact ⟨t, rfl⟩
    · cases ho
  · cases ho

theorem hasOpen_opened {event : RegistryEvent} (ho : event.opens? h uri = some true) :
    hasOpen (event :: events) h uri = true := by
  simp [hasOpen, ho]

theorem hasOpen_mono {event : RegistryEvent} (hopen : hasOpen events h uri = true)
    (hc : ∀ t, event ≠ .accepted t h (.didClose uri)) :
    hasOpen (event :: events) h uri = true := by
  cases ho : event.opens? h uri with
  | none => simpa [hasOpen, ho] using hopen
  | some b =>
    cases b with
    | true => exact hasOpen_opened ho
    | false =>
      obtain ⟨t, heq⟩ := opens?_eq_some_false ho
      exact absurd heq (hc t)

end RegistryEvent

namespace Registry

variable {r r' : Registry} {t u e h i a : Nat} {uri v : String} {action : RegistryAction}
  {call : RegistryCall} {errand : Errand} {ds : List Delivery} {d : Delivery}
  {entry : Entry} {stage : TurnStage} {notice : Notice}

def Astray (r : Registry) (e : Nat) (uri : String) : Prop :=
  ∃ h, r.Serves e h ∧ RegistryEvent.OpenedLate r.history h uri

/-- The server of an entry has a document open, unless an opening has gone astray. -/
def Knows (r : Registry) (e h : Nat) (uri : String) : Prop := r.HasOpen h uri ∨ r.Astray e uri

/-- An opening of a document is being sent to a server of an entry. -/
def SendsOpening (r : Registry) (e : Nat) (uri : String) : Prop :=
  ∃ t h language version text,
    r.IsSending t h (.didOpen uri language version text) ∧ r.Serves e h

theorem Astray.step (ha : r.Astray e uri) (action : RegistryAction) :
    (r.step action).Astray e uri := by
  obtain ⟨h, hs, ho⟩ := ha
  exact ⟨h, serves_before (servers_steps r action).before hs, ho.mono (history_step r action)⟩

theorem Knows.step (hk : r.Knows e h uri) (hs : ∀ t i accepted, action ≠ .sent t i accepted) :
    (r.step action).Knows e h uri := by
  refine hk.imp (fun ho => ?_) (·.step action)
  rwa [HasOpen, acceptances_step hs]

theorem Knows.of_same (hk : r.Knows e h uri) (hh : r'.handles = r.handles)
    (hs : r'.history = r.history) : r'.Knows e h uri := by
  simpa only [Knows, HasOpen, traffic, Astray, Serves, hh, hs] using hk

/-- How a delivery of an errand on a document stands to what is on record of it. A server that
comes up while the delivery waits has nothing on record, a change is sent only for what is there,
and a closing takes it off. -/
def DeliveryRecorded (r : Registry) (uri : String) (e : Nat) : DeliveryStage → Prop
  | .starting a => ∀ h, r.outcome? a = some (.ok h) → ¬ r.Opened e uri
  | .sending h (.didChange _ _ _) => r.Knows e h uri
  | .sending h (.didClose _) => r.Knows e h uri ∧ ¬ r.Opened e uri
  | _ => True

/-- How the documents on record fit with what servers have accepted. -/
structure RecordFits (r : Registry) : Prop where
  delivery {t : Nat} {call : RegistryCall} {errand : Errand} {ds : List Delivery} {d : Delivery}
    {uri : String} {stage : TurnStage} : r.tasks[t]? = some ⟨call, .routing errand ds⟩ → d ∈ ds →
      errand.turn? = some (uri, stage) → r.DeliveryRecorded uri d.entry d.stage
  /-- A server has open what its entry has on record, unless it is just being sent the opening. -/
  installed {e h : Nat} {uri : String} : r.Installed e h → r.Opened e uri →
    r.Knows e h uri ∨ r.SendsOpening e uri

/-- What a delivery is told of the record stays true if no one else deals with its document at its
entry. -/
theorem DeliveryRecorded.keep {errand : Errand} {stage : DeliveryStage}
    (hd : r.DeliveryRecorded uri e stage) (hf : r.DeliveryFits errand e stage)
    (hk : ∀ h, r.Serves e h → r.Knows e h uri → r'.Knows e h uri)
    (ho : r'.Opened e uri → r.Opened e uri)
    (ha : ∀ a h, stage = .starting a → r'.outcome? a = some (.ok h) →
      r.outcome? a = some (.ok h) ∨ ¬ r'.Opened e uri) :
    r'.DeliveryRecorded uri e stage := by
  cases stage with
  | begun => trivial
  | done outcome => trivial
  | starting a =>
    intro h hout
    obtain hold | hn := ha a h rfl hout
    · exact fun hop => hd h hold (ho hop)
    · exact hn
  | sending h notice =>
    cases notice with
    | didChange u version text => exact hk h hf.2 hd
    | didClose u => exact ⟨hk h hf.2 hd.1, fun hop => hd.2 (ho hop)⟩
    | _ => trivial

theorem RecordFits.quiet (hx : r.RecordFits) (hr : r.Reachable)
    (hd : ∀ t i, action ≠ .deliver t i) (hs : ∀ t i accepted, action ≠ .sent t i accepted) :
    (r.step action).RecordFits := by
  have hsheds := sheds_step (r := r) hd hs
  have hlength := length_entries_step r action
  have hopened (e : Nat) (uri : String) (ho : (r.step action).Opened e uri) : r.Opened e uri :=
    ho.of_sheds hsheds hlength
  constructor
  case delivery =>
    intro t call errand ds d uri stage ht hm hturn
    obtain hnew | hold := afresh_step (hd t) (hs t)
    · obtain ⟨es, -, rfl⟩ := hnew call errand ds ht
      obtain ⟨e, -, rfl⟩ := List.mem_map.1 hm
      trivial
    · rw [hold] at ht
      obtain ⟨-, hfits, -⟩ := hr.taskFits t _ ht
      refine (hx.delivery ht hm hturn).keep (hfits d hm) (fun _ _ hk => hk.step hs)
        (hopened d.entry uri) fun a h hst hout => ?_
      have hfit := hfits d hm
      rw [hst] at hfit
      obtain ⟨attempt, hattempt, hentry⟩ := hfit
      cases hn : r.outcome? a with
      | none => exact .inr (hentry ▸ not_opened_step hattempt hn hd hout uri)
      | some outcome =>
        have hout' := outcome?_before (servers_steps r action).before hn
        exact .inl (hout'.symm.trans hout)
  case installed =>
    intro e h uri hi ho
    obtain hk | ⟨t, i, language, version, text, hsend, hserves⟩ :=
      hx.installed (hi.of_sheds ho hsheds hlength) (hopened e uri ho)
    · exact .inl (hk.step hs)
    · obtain ⟨call, errand, ds, d, ht, hm, hst⟩ := hsend
      refine .inr ⟨t, i, language, version, text, ?_, ?_⟩
      · exact ⟨call, errand, ds, d, routing_quiet ht (hd t) (hs t), hm, hst⟩
      · exact serves_before (servers_steps r action).before hserves

theorem arrive_recorded (he : r.entries[e]? = some entry)
    (hturn : errand.turn? = some (uri, stage)) (hk : r.Opened e uri → r.Knows e h uri) :
    (r.arrive errand e entry h).1.DeliveryRecorded uri e (r.arrive errand e entry h).2 := by
  cases errand with
  | start => cases hturn
  | telling method params => cases hturn
  | opening u language text => trivial
  | changing u language text version =>
    cases hturn
    simp only [arrive]
    split
    · rename_i hc
      exact hk ⟨entry, he, List.contains_iff_mem.1 hc⟩
    · trivial
  | closing u =>
    cases hturn
    simp only [arrive]
    split
    · rename_i hc
      refine ⟨(hk ⟨entry, he, List.contains_iff_mem.1 hc⟩).of_same rfl rfl, ?_⟩
      rintro ⟨y, hy, hm⟩
      simp only [modifyEntry, List.getElem?_modify_eq, he] at hy
      cases hy
      simp [Entry.removeOpened] at hm
    · trivial

/-- A server is not told twice of a document that its entry has on record: the delivery that is
about to deal with it is the only one. -/
theorem RecordFits.knows (hx : r.RecordFits) (hr : r.Reachable)
    (ht : r.tasks[t]? = some ⟨call, .routing errand ds⟩) (hd : ds[i]? = some ⟨e, .begun⟩)
    (hturn : errand.turn? = some (uri, stage)) (hi : r.Installed e h) (ho : r.Opened e uri) :
    r.Knows e h uri := by
  obtain hk | ⟨u, j, language, version, text, hsend, hserves⟩ := hx.installed hi ho
  · exact hk
  · obtain ⟨call', errand', ds', d', hu, hm, hst⟩ := hsend
    obtain ⟨-, hfits, -⟩ := hr.taskFits u _ hu
    have hfit := hfits d' hm
    rw [hst] at hfit
    obtain ⟨st, hturn'⟩ := Errand.turn?_of_sends hfit.1 rfl
    obtain rfl := routing_unique hr ht hu hturn hturn'
    cases ht.symm.trans hu
    obtain ⟨k, hk⟩ := List.mem_iff_getElem?.1 hm
    obtain rfl := delivery_unique hr ht hd hk (hserves.unique hfit.2)
    cases hd.symm.trans hk
    cases hst

theorem RecordFits.advance (hx : r.RecordFits) (hr : r.Reachable)
    (ht : r.tasks[t]? = some ⟨call, .routing errand ds⟩) (hd : ds[i]? = some d)
    (hturn : errand.turn? = some (uri, stage)) (he : r.entries[d.entry]? = some entry) :
    (r.advance errand d entry).1.DeliveryRecorded uri d.entry (r.advance errand d entry).2 := by
  have hold := hx.delivery ht (List.mem_of_getElem? hd) hturn
  obtain ⟨e, old⟩ := d
  have hfound {h : Nat} (hbegun : old = .begun) (hst : entry.slot.state = .started h) :
      (r.arrive errand e entry h).1.DeliveryRecorded uri e (r.arrive errand e entry h).2 := by
    subst hbegun
    exact arrive_recorded he hturn (hx.knows hr ht hd hturn ⟨entry, he, hst⟩)
  cases old with
  | done outcome => exact hold
  | sending h notice => exact hold
  | starting a =>
    simp only [Registry.advance]
    split
    · exact hold
    · rename_i h hout
      exact arrive_recorded he hturn fun ho => absurd ho (hold h hout)
    · trivial
  | begun =>
    simp only [Registry.advance, seek]
    split
    · split
      · rename_i h hh
        exact hfound rfl (Slot.handle?_eq_some.1 hh)
      · trivial
    · split
      · trivial
      · split
        · rename_i h hst
          exact hfound rfl hst
        · rename_i a hst
          intro h hout
          have ha : r.attempts[a]? = _ := hr.sound.starting (slot_of_entry he) hst
          rw [outcome?, ha] at hout
          cases hout
        · intro h hout
          simp [outcome?, beginAttempt, note, modifyEntry] at hout

/-- A step that leaves entries, attempts, handles and the history as they are changes nothing here.
-/
theorem DeliveryRecorded.of_same {stage : DeliveryStage} (hd : r.DeliveryRecorded uri e stage)
    (he : r'.entries = r.entries) (ha : r'.attempts = r.attempts) (hh : r'.handles = r.handles)
    (hs : r'.history = r.history) : r'.DeliveryRecorded uri e stage := by
  cases stage with
  | begun => trivial
  | done outcome => trivial
  | starting a => simpa only [DeliveryRecorded, outcome?, Opened, he, ha] using hd
  | sending h notice =>
    cases notice with
    | didChange u version text => exact Knows.of_same hd hh hs
    | didClose u => exact ⟨hd.1.of_same hh hs, fun ho => hd.2 (ho.of_entries he.symm)⟩
    | _ => trivial

/-- Deliveries stand as they should once one has gone on, if that one does and what was done
concerns its document at its entry only. -/
theorem RecordFits.setDelivery {stage : DeliveryStage} (hx : r.RecordFits) (hr : r.Reachable)
    (htasks : r'.tasks = r.tasks) (ht : r.tasks[t]? = some ⟨call, .routing errand ds⟩)
    (hd : ds[i]? = some d)
    (hown : ∀ uri st, errand.turn? = some (uri, st) →
      (r'.setDelivery t errand ds i stage).DeliveryRecorded uri d.entry stage)
    (hk : ∀ e h uri, ¬ (e = d.entry ∧ ∃ st, errand.turn? = some (uri, st)) → r.Serves e h →
      r.Knows e h uri → (r'.setDelivery t errand ds i stage).Knows e h uri)
    (ho : ∀ e uri, ¬ (e = d.entry ∧ ∃ st, errand.turn? = some (uri, st)) →
      (r'.setDelivery t errand ds i stage).Opened e uri → r.Opened e uri)
    (ha : ∀ a h, (r'.setDelivery t errand ds i stage).outcome? a = some (.ok h) →
      r.outcome? a = some (.ok h))
    {call' : RegistryCall} {errand' : Errand} {ds' : List Delivery} {d' : Delivery}
    {st : TurnStage}
    (hu : (r'.setDelivery t errand ds i stage).tasks[u]? = some ⟨call', .routing errand' ds'⟩)
    (hm : d' ∈ ds') (hturn : errand'.turn? = some (uri, st)) :
    (r'.setDelivery t errand ds i stage).DeliveryRecorded uri d'.entry d'.stage := by
  obtain ⟨rfl, rfl⟩ | ⟨old, hold, hmold, hun⟩ := others_setDelivery htasks ht hd hr hu hm hturn
  · exact hown uri st hturn
  · obtain ⟨-, hfits, -⟩ := hr.taskFits u _ hold
    exact (hx.delivery hold hmold hturn).keep (hfits d' hmold)
      (fun h => hk d'.entry h uri hun) (ho d'.entry uri hun) fun a h _ hout => .inl (ha a h hout)

theorem RecordFits.deliver (hx : r.RecordFits) (hr : r.Reachable) (t i : Nat) :
    (r.deliver t i).RecordFits := by
  have hknows (e h : Nat) (uri : String) (hk : r.Knows e h uri) :
      (r.deliver t i).Knows e h uri :=
    hk.step (show ∀ u j accepted, RegistryAction.deliver t i ≠ .sent u j accepted from nofun)
  have harrives : Servers.Arrives r.servers (r.deliver t i).servers :=
    (servers_steps r (.deliver t i)).arrives
  have hr' : (r.deliver t i).Reachable := hr.step (.deliver t i)
  obtain heq | ⟨call, errand, ds, d, entry, ht, hd, he, heq⟩ := deliver_cases r t i
  · rwa [heq]
  rw [heq] at hknows harrives hr' ⊢
  have htasks := tasks_advance r errand d entry
  have hm := List.mem_of_getElem? hd
  have hentries := entries_setDelivery (r.advance errand d entry).1 t errand ds i
    (r.advance errand d entry).2
  have hattempts := attempts_setDelivery (r.advance errand d entry).1 t errand ds i
    (r.advance errand d entry).2
  have hhandles := handles_setDelivery (r.advance errand d entry).1 t errand ds i
    (r.advance errand d entry).2
  have hhistory := history_setDelivery (r.advance errand d entry).1 t errand ds i
    (r.advance errand d entry).2
  obtain ⟨-, hfits, -⟩ := hr.taskFits t _ ht
  have hfit := advance_fits hr.sound he (hfits d hm)
  have hopened {e : Nat} {v : String}
      (ho : ((r.advance errand d entry).1.setDelivery t errand ds i
        (r.advance errand d entry).2).Opened e v) :
      r.Opened e v ∨ e = d.entry ∧ ∃ h language version text,
        (r.advance errand d entry).2 = .sending h (.didOpen v language version text) :=
    opened_of_advance (ho.of_entries hentries.symm)
  constructor
  case delivery =>
    refine hx.setDelivery hr htasks ht hd (fun uri st hturn => ?_)
      (fun e h uri _ _ => hknows e h uri) (fun e uri hun ho => ?_) fun a h hout => ?_
    · exact (hx.advance hr ht hd hturn he).of_same hentries hattempts hhandles hhistory
    · obtain ho | ⟨heq, h, language, version, text, hst⟩ := hopened ho
      · exact ho
      · rw [hst] at hfit
        exact absurd ⟨heq, Errand.turn?_of_sends hfit.1 rfl⟩ hun
    · rw [outcome?, hattempts] at hout
      exact outcome?_of_advance hout
  case installed =>
    intro e h uri hi ho
    have hlt : h < r.handles.length := by
      have hlt := (hi.serves hr').lt
      rwa [hhandles, handles_advance] at hlt
    have hr'' : (r.advance errand d entry).1.tasks[t]? = some ⟨call, .routing errand ds⟩ := by
      rw [htasks, ht]
    obtain ho | ⟨rfl, j, language, version, text, hst⟩ := hopened ho
    · obtain hk | ⟨u, j, language, version, text, hsend, hserves⟩ :=
        hx.installed (hi.earlier harrives hlt) ho
      · exact .inl (hknows e h uri hk)
      · have hserves' := hserves.of_handles (hhandles.trans (handles_advance r errand d entry))
        refine .inr ⟨u, j, language, version, text, ?_, hserves'⟩
        obtain hs | ⟨rfl, hst⟩ := hsend.setDelivery htasks ht hd
        · exact hs
        · refine isSending_setDelivery hr'' hd (.inl ⟨rfl, ?_⟩)
          simp only [Registry.advance, hst]
    · have hserves := hfit
      rw [hst] at hserves
      exact .inr ⟨t, j, language, version, text, isSending_setDelivery hr'' hd (.inl ⟨rfl, hst⟩),
        hserves.2.of_handles hhandles⟩

theorem Knows.accept (hk : r.Knows e i uri) (hh : r'.handles = r.handles)
    (hs : r'.history = .accepted t h notice :: r.history)
    (hc : i = h → notice ≠ .didClose uri) : r'.Knows e i uri := by
  obtain ho | ⟨j, hserves, ho⟩ := hk
  · left
    rw [HasOpen, traffic, hs]
    refine RegistryEvent.hasOpen_mono ho fun u heq => ?_
    cases heq
    exact hc rfl rfl
  · exact .inr ⟨j, hserves.of_handles hh, ho.mono (hs ▸ List.suffix_cons _ _)⟩

section EndSending

variable (hx : r.RecordFits) (hr : r.Reachable)
variable (ht : r.tasks[t]? = some ⟨call, .routing errand ds⟩)
variable (hd : ds[i]? = some ⟨e, .sending h notice⟩)

include hx hr ht hd

theorem RecordFits.accepted (ha : r.alive h = true) :
    ((r.note (.accepted t h notice)).setDelivery t errand ds i
      (.done (.accepted h))).RecordFits := by
  have hm := List.mem_of_getElem? hd
  obtain ⟨-, hfits, -⟩ := hr.taskFits t _ ht
  obtain ⟨hsends, hserves⟩ : errand.Sends notice ∧ r.Serves e h := hfits _ hm
  have htasks : (r.note (.accepted t h notice)).tasks = r.tasks := rfl
  have hsame : (r.note (.accepted t h notice)).servers = r.servers := rfl
  have hservers := servers_setDelivery_of_eq ht hsame htasks (i := i) (.done (.accepted h))
  have hentries := entries_setDelivery (r.note (.accepted t h notice)) t errand ds i
    (.done (.accepted h))
  have hhandles := handles_setDelivery (r.note (.accepted t h notice)) t errand ds i
    (.done (.accepted h))
  have hhistory := history_setDelivery (r.note (.accepted t h notice)) t errand ds i
    (.done (.accepted h))
  constructor
  case delivery =>
    refine hx.setDelivery hr htasks ht hd ?_
      (fun e' j v hun hj hk => hk.accept hhandles hhistory ?_)
      (fun _ _ _ ho => ho.of_entries hentries.symm) fun a j hout => ?_
    · exact fun _ _ _ => trivial
    · rintro rfl rfl
      exact hun ⟨hj.unique hserves, Errand.turn?_of_sends hsends rfl⟩
    · rwa [outcome?, attempts_setDelivery] at hout
  case installed =>
    intro e' j v hi ho
    have hi' := hi.of_servers hservers
    have ho' := ho.of_entries hentries.symm
    obtain hk | ⟨u, k, language, version, text, hsend, hk⟩ := hx.installed hi' ho'
    · refine .inl (hk.accept hhandles hhistory ?_)
      rintro rfl rfl
      obtain rfl := (hi'.serves hr).unique hserves
      obtain ⟨st, hturn⟩ := Errand.turn?_of_sends hsends rfl
      exact (hx.delivery ht hm hturn).2 ho'
    · obtain hs | ⟨rfl, hst⟩ := hsend.setDelivery htasks ht hd
      · exact .inr ⟨u, k, language, version, text, hs, hk.of_handles hhandles⟩
      · cases hst
        left
        by_cases hj : j = h
        · subst hj
          left
          rw [HasOpen, traffic, hhistory]
          exact RegistryEvent.hasOpen_opened (by simp [RegistryEvent.opens?])
        · -- The server that takes the opening is not the one that its entry has.
          have hlate := (running_of_alive ha hr).shuttingDown hr fun e'' hi'' => by
            obtain rfl := (hi''.serves hr).unique hk
            exact hj (hi'.handle_unique hi'')
          exact .inr ⟨h, hk.of_handles hhandles, u, language, version, text, r.history,
            hhistory ▸ List.suffix_rfl, hlate⟩

theorem RecordFits.declined {r' : Registry} (htasks : r'.tasks = r.tasks)
    (hservers : r'.servers = r.servers) (hhistory : r'.history = r.history)
    (hopened : ∀ e' v, r'.Opened e' v → r.Opened e' v ∧
      ¬ (e' = e ∧ ∃ language version text, notice = .didOpen v language version text)) :
    (r'.setDelivery t errand ds i (.done .declined)).RecordFits := by
  have hm := List.mem_of_getElem? hd
  obtain ⟨-, hfits, -⟩ := hr.taskFits t _ ht
  obtain ⟨hsends, hserves⟩ : errand.Sends notice ∧ r.Serves e h := hfits _ hm
  have hservers' := servers_setDelivery_of_eq ht hservers htasks (i := i) (.done .declined)
  have hhandles : (r'.setDelivery t errand ds i (.done .declined)).handles = r.handles :=
    congrArg Servers.handles hservers'
  have hhistory' := (history_setDelivery r' t errand ds i (.done .declined)).trans hhistory
  have hopened' (e' : Nat) (v : String)
      (ho : (r'.setDelivery t errand ds i (.done .declined)).Opened e' v) :=
    hopened e' v (ho.of_entries (entries_setDelivery r' t errand ds i (.done .declined)).symm)
  constructor
  case delivery =>
    refine hx.setDelivery hr htasks ht hd ?_ (fun _ _ _ _ _ hk => hk.of_same hhandles hhistory')
      (fun e' v _ ho => (hopened' e' v ho).1) fun a j hout => ?_
    · exact fun _ _ _ => trivial
    · rwa [outcome?, attempts_of_servers hservers'] at hout
  case installed =>
    intro e' j v hi ho
    obtain ⟨ho', hn⟩ := hopened' e' v ho
    obtain hk | ⟨u, k, language, version, text, hsend, hk⟩ :=
      hx.installed (hi.of_servers hservers') ho'
    · exact .inl (hk.of_same hhandles hhistory')
    · obtain hs | ⟨rfl, hst⟩ := hsend.setDelivery htasks ht hd
      · exact .inr ⟨u, k, language, version, text, hs, hk.of_handles hhandles⟩
      · cases hst
        exact absurd ⟨hk.unique hserves, language, version, text, rfl⟩ hn

end EndSending

theorem RecordFits.endSending (hx : r.RecordFits) (hr : r.Reachable) (t i : Nat)
    (accepted : Bool) : (r.endSending t i accepted).RecordFits := by
  obtain heq | ⟨call, errand, ds, e, h, notice, ht, hd, heq⟩ := endSending_cases r t i accepted
  · rwa [heq]
  rw [heq]
  obtain ⟨ha, heq⟩ | ⟨hstage, hhistory, hopened⟩ := sent_spec r t e h notice accepted
  · rw [heq]
    exact hx.accepted hr ht hd ha
  · rw [hstage]
    exact hx.declined hr ht hd (tasks_sent r t e h notice accepted)
      (servers_sent r t e h notice accepted) hhistory hopened

theorem RecordFits.step (hx : r.RecordFits) (hr : r.Reachable) (action : RegistryAction) :
    (r.step action).RecordFits := by
  by_cases hd : ∃ t i, action = .deliver t i
  · obtain ⟨t, i, rfl⟩ := hd
    exact hx.deliver hr t i
  by_cases hs : ∃ t i accepted, action = .sent t i accepted
  · obtain ⟨t, i, accepted, rfl⟩ := hs
    exact hx.endSending hr t i accepted
  exact hx.quiet hr (fun t i heq => hd ⟨t, i, heq⟩)
    fun t i accepted heq => hs ⟨t, i, accepted, heq⟩

theorem Reachable.recordFits (hr : r.Reachable) : r.RecordFits := by
  apply hr.induction (p := RecordFits)
  · intro root configs watch commandExists handshakeMs
    constructor
    · intro t call errand ds d uri stage ht
      cases ht
    · intro e h uri _ ho
      obtain ⟨entry, he, hm⟩ := ho
      simp only [ofConfigs, List.getElem?_map] at he
      obtain ⟨config, -, rfl⟩ := Option.map_eq_some_iff.1 he
      cases hm
  · intro r action hr hx
    exact hx.step hr action

/-- A server that is sent a change or a closing of a document knows of the document. -/
theorem IsSending.knows (hs : r.IsSending t h notice) (hr : r.Reachable)
    (hn : notice.presumed? = some uri) : ∃ e, r.Serves e h ∧ r.Knows e h uri := by
  obtain ⟨call, errand, ds, d, ht, hd, hst⟩ := hs
  obtain ⟨-, hfits, -⟩ := hr.taskFits t _ ht
  have hfit := hfits d hd
  rw [hst] at hfit
  refine ⟨d.entry, hfit.2, ?_⟩
  have hrecorded {stage : TurnStage} (hturn : errand.turn? = some (uri, stage)) :=
    hr.recordFits.delivery ht hd hturn
  rw [hst] at hrecorded
  cases notice with
  | didChange u version text =>
    cases hn
    cases errand with
    | changing u' language text' version' =>
      obtain hsends | hsends := hfit.1
      · cases hsends
      · cases hsends
        exact hrecorded rfl
    | start => exact hfit.1.elim
    | _ => cases hfit.1
  | didClose u =>
    cases hn
    obtain ⟨st, hturn⟩ := Errand.turn?_of_sends hfit.1 rfl
    exact (hrecorded hturn).1
  | _ => cases hn

/-- A server that accepts a change or a closing of a document has the document open: it has
accepted an opening of it, and no closing since. Else an opening of the document has gone astray
before: another server of the same entry has accepted it after its shutdown had begun. -/
theorem told_in_context {before : List RegistryEvent} (hr : r.Reachable)
    (hs : .accepted t h notice :: before <:+ r.history) (hn : notice.presumed? = some uri) :
    RegistryEvent.hasOpen before h uri = true ∨
      ∃ e i, r.Serves e h ∧ r.Serves e i ∧ RegistryEvent.OpenedLate before i uri := by
  refine hr.induction (p := fun r => ∀ (t h : Nat) (notice : Notice) (before : List RegistryEvent),
    .accepted t h notice :: before <:+ r.history → notice.presumed? = some uri →
      RegistryEvent.hasOpen before h uri = true ∨
        ∃ e i, r.Serves e h ∧ r.Serves e i ∧ RegistryEvent.OpenedLate before i uri)
    ?_ ?_ t h notice before hs hn
  · intro root configs watch commandExists handshakeMs t h notice before hs
    cases List.suffix_nil.1 hs
  · intro r action hr ih t h notice before hs hn
    have hb := (servers_steps r action).before
    have hserves {e i : Nat} (hs : r.Serves e i) : (r.step action).Serves e i := serves_before hb hs
    obtain hs | ⟨rfl, hsend⟩ := accepted_suffix hs
    · refine (ih t h notice before hs hn).imp_right ?_
      rintro ⟨e, i, hh, hi, ho⟩
      exact ⟨e, i, hserves hh, hserves hi, ho⟩
    · obtain ⟨e, hh, ho | ⟨i, hi, ho⟩⟩ := hsend.knows hr hn
      · exact .inl (by rwa [HasOpen, traffic, RegistryEvent.hasOpen_filter] at ho)
      · exact .inr ⟨e, i, hserves hh, hserves hi, ho⟩

/-- All servers are shut down and one is started anew before the caller goes on that has waited for
the first one. -/
def openedAstray : List RegistryAction :=
  [.call (.document .opened (.ofString "a.ts")), .resume 0, .read 0 (.ok "x"), .deliver 0 0,
    .spawned 0 (.running false), .call .shutdownAll, .resume 1, .call (.start "ts"), .resume 2,
    .deliver 2 0, .spawned 1 (.running false), .deliver 0 0, .sent 0 0 true,
    .call (.document .changed (.ofString "a.ts")), .resume 3, .read 3 (.ok "y"), .deliver 3 0,
    .sent 3 0 true]

/-- The opening goes to the server that is being shut down, and the other one is sent a change of a
document that it was never told of. -/
theorem told_out_of_context : (oneServer.run openedAstray).history =
    [.accepted 3 1 (.didChange "file:///w/a.ts" 2 "y"),
      .accepted 0 0 (.didOpen "file:///w/a.ts" "typescript" 1 "x"), .spawning 0, .shuttingDown 0,
      .shutdownAll, .spawning 0] :=
  rfl

end Registry

end Switchyard
