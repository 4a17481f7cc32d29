import Switchyard.Proofs.Registry.Context
import Switchyard.Proofs.Registry.Routes

namespace Switchyard

namespace RegistryEvent

variable {events : List RegistryEvent} {event : RegistryEvent} {h : Nat} {uri : String}

/-- What an event makes of the version that a server has of a document. -/
def version? (h : Nat) (uri : String) : RegistryEvent → Option (Option Int32)
  | .accepted _ i (.didOpen u _ version _) | .accepted _ i (.didChange u version _) =>
    if i = h ∧ u = uri then some (some version) else none
  | .accepted _ i (.didClose u) => if i = h ∧ u = uri then some none else none
  | _ => none

/-- The version that a server has of a document after some events, the last one first; it has none
of a document that it was not told of since it last accepted a closing. -/
def versionAt (events : List RegistryEvent) (h : Nat) (uri : String) : Option Int32 :=
  (events.findSome? (version? h uri)).join

theorem versionAt_cons (event : RegistryEvent) (events : List RegistryEvent) (h : Nat)
    (uri : String) :
    versionAt (event :: events) h uri = (event.version? h uri).getD (versionAt events h uri) := by
  unfold versionAt
  cases ho : event.version? h uri with
  | none => simp [ho]
  | some version => simp [ho]

theorem version?_eq_some {version : Option Int32} (hv : event.version? h uri = some version) :
    ∃ t notice, event = .accepted t h notice ∧ notice.uri? = some uri := by
  unfold version? at hv
  split at hv
  · split at hv
    · rename_i heq
      obtain ⟨rfl, rfl⟩ := heq
      exact ⟨_, _, rfl, rfl⟩
    · cases hv
  · split at hv
    · rename_i heq
      obtain ⟨rfl, rfl⟩ := heq
      exact ⟨_, _, rfl, rfl⟩
    · cases hv
  · split at hv
    · rename_i heq
      obtain ⟨rfl, rfl⟩ := heq
      exact ⟨_, _, rfl, rfl⟩
    · cases hv
  · cases hv

theorem versionAt_filter (events : List RegistryEvent) (h : Nat) (uri : String) :
    versionAt (events.filter (·.isAcceptance)) h uri = versionAt events h uri := by
  induction events with
  | nil => rfl
  | cons event events ih =>
    cases hp : event.isAcceptance with
    | true => rw [List.filter_cons_of_pos hp, versionAt_cons, versionAt_cons, ih]
    | false =>
      have hn : event.version? h uri = none := by cases event <;> first | rfl | cases hp
      rw [List.filter_cons_of_neg (by simp [hp]), ih, versionAt_cons, hn, Option.getD_none]

end RegistryEvent

namespace DocumentEvent

/-- A document is not changed so often between two openings that it has no versions left. -/
def RoomFor (events : List DocumentEvent) : Prop :=
  ∀ n, List.replicate n .changed <:+: events → n < 2147483647

theorem RoomFor.of_prefix {events more : List DocumentEvent} (hroom : RoomFor more)
    (hp : events <+: more) : RoomFor events :=
  fun n hn => hroom n (hn.trans hp.isInfix)

theorem foldl_version {events : List DocumentEvent} {v : Int32}
    (hv : events.foldl (fun version event => event.version version) none = some v) :
    ∃ n, List.replicate n .changed <:+ events ∧ (v = .ofNat n ∨ v = .ofNat (n + 1)) := by
  induction events using List.reverseRecOn generalizing v with
  | nil => cases hv
  | append_singleton events event ih =>
    rw [List.foldl_append] at hv
    cases event with
    | opened =>
      cases hv
      exact ⟨0, List.nil_suffix, .inr rfl⟩
    | closed => cases hv
    | changed =>
      cases hold : events.foldl (fun version event => event.version version) none with
      | none =>
        rw [hold] at hv
        cases hv
        exact ⟨1, List.suffix_append _ _, .inl rfl⟩
      | some v' =>
        rw [hold] at hv
        cases hv
        obtain ⟨n, ⟨first, rfl⟩, hn⟩ := ih hold
        refine ⟨n + 1, ⟨first, ?_⟩, ?_⟩
        · rw [List.replicate_succ', List.append_assoc]
        · refine hn.imp ?_ ?_
          all_goals
            rintro rfl
            exact (Int32.ofNat_add _ 1).symm

theorem lt_add_one_of_version {n : Nat} {v : Int32} (hn : n + 1 < 2147483647)
    (hv : v = .ofNat n ∨ v = .ofNat (n + 1)) : v < v + 1 := by
  have hlt {k : Nat} (hk : k < 2147483647) : Int32.ofNat k < .ofNat k + 1 := by
    rw [show Int32.ofNat k + 1 = Int32.ofNat (k + 1) from (Int32.ofNat_add k 1).symm,
      Int32.lt_iff_toInt_lt, Int32.toInt_ofNat_of_lt (by omega), Int32.toInt_ofNat_of_lt (by omega)]
    omega
  obtain rfl | rfl := hv
  · exact hlt (by omega)
  · exact hlt (by omega)

end DocumentEvent

/-- A delivery has yet to get to its server, or is just sending it an opening of a document. -/
def DeliveryStage.IsPending (uri : String) : DeliveryStage → Prop
  | .begun => True
  | .sending _ (.didOpen u _ _ _) => u = uri
  | _ => False

namespace Registry

variable {r r' : Registry} {t u e h i a : Nat} {uri v : String} {action : RegistryAction}
  {call : RegistryCall} {errand : Errand} {ds : List Delivery} {d : Delivery}
  {entry : Entry} {notice : Notice} {w : Int32}

/-- The version that a server has of a document, going by what it has accepted. -/
def versionAt (r : Registry) (h : Nat) (uri : String) : Option Int32 :=
  RegistryEvent.versionAt r.traffic.2 h uri

theorem versionAt_of_traffic (ht : r'.traffic.2 = r.traffic.2) (h : Nat) (uri : String) :
    r'.versionAt h uri = r.versionAt h uri := by
  rw [versionAt, versionAt, ht]

theorem versionAt_eq_some_lt (hv : r.versionAt h uri = some w) (hr : r.Reachable) :
    h < r.handles.length := by
  unfold versionAt RegistryEvent.versionAt at hv
  cases hf : r.traffic.2.findSome? (RegistryEvent.version? h uri) with
  | none => simp [hf] at hv
  | some version =>
    obtain ⟨event, hm, hversion⟩ := List.exists_of_findSome?_eq_some hf
    obtain ⟨t, notice, rfl, -⟩ := RegistryEvent.version?_eq_some hversion
    obtain ⟨_, _, e, _, _, _, hs⟩ := hr.acceptedFits t h _ (mem_traffic.1 hm)
    exact hs.lt

/-- A delivery of an errand on a document has yet to tell the server of an entry, or is just
sending it an opening. -/
def Pending (r : Registry) (e : Nat) (uri : String) : Prop :=
  ∃ t call errand ds d, r.Routes t call errand ds uri ∧ d ∈ ds ∧ d.entry = e ∧
    d.stage.IsPending uri

/-- How a delivery of an errand on a document stands to the versions that the servers of its entry
have. A change comes after what the server has been told before, and no other server that is there
has been told anything. -/
def DeliveryVersions (r : Registry) (errand : Errand) (uri : String) (e : Nat) :
    DeliveryStage → Prop
  | .begun => ∀ u language text version, errand = .changing u language text version →
    ∀ h w, r.Installed e h → r.Opened e uri → r.versionAt h uri = some w → w < version
  | .starting _ => ∀ h, r.Installed e h → r.versionAt h uri = none
  | .sending h notice => (∀ i, r.Installed e i → i ≠ h → r.versionAt i uri = none) ∧
    ∀ version text, notice = .didChange uri version text →
      ∀ w, r.versionAt h uri = some w → w < version
  | .done _ => True

/-- How the version of a document fits with the errands on it and with what servers have been told
of it. -/
structure VersionsFit (r : Registry) (uri : String) : Prop where
  lookup {t : Nat} {call : RegistryCall} {errand : Errand} {ds : List Delivery} :
    r.Routes t call errand ds uri → r.versions.lookup uri = errand.version?
  routed {t : Nat} {call : RegistryCall} {errand : Errand} {ds : List Delivery} :
    r.Routes t call errand ds uri →
      ∃ path, Uri.ofPath? path = some uri ∧ ∀ d ∈ ds, d.entry ∈ r.matching path
  wanted {e : Nat} : r.Opened e uri → ∃ path, Uri.ofPath? path = some uri ∧ e ∈ r.matching path
  delivery {t : Nat} {call : RegistryCall} {errand : Errand} {ds : List Delivery} {d : Delivery} :
    r.Routes t call errand ds uri → d ∈ ds → r.DeliveryVersions errand uri d.entry d.stage
  /-- A server that has a version of a document on record has one that the document has had, unless
  it is about to be told of the document. -/
  tracked {e h : Nat} {w : Int32} : r.Installed e h → r.Opened e uri →
    r.versionAt h uri = some w → (∃ v, r.versions.lookup uri = some v ∧ w ≤ v) ∨ r.Pending e uri

/-- What a delivery is told of versions stays true if no one else tells the servers of its entry of
its document. -/
theorem DeliveryVersions.keep {stage : DeliveryStage}
    (hd : r.DeliveryVersions errand uri e stage) (hr : r.Reachable)
    (hf : r.DeliveryFits errand e stage) (ha : Servers.Arrives r.servers r'.servers)
    (ho : r'.Opened e uri → r.Opened e uri)
    (hv : ∀ h w, r'.versionAt h uri = some w → r.Serves e h → r.versionAt h uri = some w)
    (hl : ∀ h w, r'.versionAt h uri = some w → h < r.handles.length) :
    r'.DeliveryVersions errand uri e stage := by
  have hearlier {h : Nat} {w : Int32} (hi : r'.Installed e h) (hw : r'.versionAt h uri = some w) :
      r.Installed e h ∧ r.versionAt h uri = some w := by
    have hi' := hi.earlier ha (hl h w hw)
    exact ⟨hi', hv h w hw (hi'.serves hr)⟩
  have hnone {h : Nat} (hi : r'.Installed e h) (hn : r.Installed e h → r.versionAt h uri = none) :
      r'.versionAt h uri = none := by
    refine Option.eq_none_iff_forall_ne_some.2 fun w hw => ?_
    obtain ⟨hi', hw'⟩ := hearlier hi hw
    cases (hn hi').symm.trans hw'
  cases stage with
  | begun =>
    intro u language text version heq h w hi hop hw
    obtain ⟨hi', hw'⟩ := hearlier hi hw
    exact hd u language text version heq h w hi' (ho hop) hw'
  | starting a => exact fun h hi => hnone hi fun hi' => hd h hi'
  | sending h notice =>
    refine ⟨fun i hi hne => hnone hi fun hi' => hd.1 i hi' hne, fun version text heq w hw => ?_⟩
    exact hd.2 version text heq w (hv h w hw hf.2)
  | done outcome => trivial

def HasRoom (r : Registry) (uri : String) (action : RegistryAction) : Prop :=
  ∀ t, .wrote t uri .changed ∈ r.turnEvents action →
    ∀ v, r.versions.lookup uri = some v → v < v + 1

theorem Routes.quiet (hroutes : r.Routes t call errand ds uri) (hd : ∀ t i, action ≠ .deliver t i)
    (hs : ∀ t i accepted, action ≠ .sent t i accepted) :
    (r.step action).Routes t call errand ds uri :=
  ⟨routing_quiet hroutes.1 (hd t) (hs t), hroutes.2⟩

theorem Pending.quiet (hp : r.Pending e uri) (hd : ∀ t i, action ≠ .deliver t i)
    (hs : ∀ t i accepted, action ≠ .sent t i accepted) : (r.step action).Pending e uri := by
  obtain ⟨t, call, errand, ds, d, hroutes, hm, he, hst⟩ := hp
  exact ⟨t, call, errand, ds, d, hroutes.quiet hd hs, hm, he, hst⟩

theorem Routes.fits (hroutes : r.Routes t call errand ds uri) (hr : r.Reachable) (hm : d ∈ ds) :
    r.DeliveryFits errand d.entry d.stage := by
  obtain ⟨-, hfits, -⟩ := hr.taskFits t _ hroutes.1
  exact hfits d hm

section Quiet

variable (hx : r.VersionsFit uri) (hr : r.Reachable) (hd : ∀ t i, action ≠ .deliver t i)
variable (hs : ∀ t i accepted, action ≠ .sent t i accepted)

include hd hs

theorem Opened.of_quiet (ho : (r.step action).Opened e uri) : r.Opened e uri :=
  ho.of_sheds (sheds_step hd hs) (length_entries_step r action)

include hx

theorem VersionsFit.wanted_quiet (ho : (r.step action).Opened e uri) :
    ∃ path, Uri.ofPath? path = some uri ∧ e ∈ (r.step action).matching path := by
  obtain ⟨path, hnames, hm⟩ := hx.wanted (ho.of_quiet hd hs)
  exact ⟨path, hnames, by rwa [matching_before (servers_steps r action).before]⟩

/-- What a server has of a document on record before a step in which no delivery goes on. -/
theorem VersionsFit.tracked_quiet (hi : (r.step action).Installed e h)
    (ho : (r.step action).Opened e uri) (hw : (r.step action).versionAt h uri = some w) :
    (∃ v, r.versions.lookup uri = some v ∧ w ≤ v) ∨ r.Pending e uri := by
  rw [versionAt_of_traffic (acceptances_step hs)] at hw
  have hi' := hi.of_sheds ho (sheds_step hd hs) (length_entries_step r action)
  exact hx.tracked hi' (ho.of_quiet hd hs) hw

include hr

theorem VersionsFit.rests (hrests : r.Rests (r.step action) uri) :
    (r.step action).VersionsFit uri := by
  have hversion (h : Nat) : (r.step action).versionAt h uri = r.versionAt h uri :=
    versionAt_of_traffic (acceptances_step hs) h uri
  constructor
  case lookup =>
    intro t call errand ds hroutes
    rw [hrests.version]
    exact hx.lookup (hrests.routes hroutes)
  case routed =>
    intro t call errand ds hroutes
    obtain ⟨path, hnames, hall⟩ := hx.routed (hrests.routes hroutes)
    exact ⟨path, hnames, by rwa [matching_before (servers_steps r action).before]⟩
  case wanted => exact hx.wanted_quiet hd hs
  case delivery =>
    intro t call errand ds d hroutes hm
    have hold := hrests.routes hroutes
    refine (hx.delivery hold hm).keep hr (hold.fits hr hm) (servers_steps r action).arrives
      (·.of_quiet hd hs) ?_ ?_
    · exact fun h w hw _ => (hversion h).symm.trans hw
    · exact fun h w hw => versionAt_eq_some_lt ((hversion h).symm.trans hw) hr
  case tracked =>
    intro e h w hi ho hw
    rw [hrests.version]
    exact (hx.tracked_quiet hd hs hi ho hw).imp_right (·.quiet hd hs)

omit hr

theorem VersionsFit.setsOut {path : Path} (hout : r.SetsOutOn (r.step action) t errand path uri)
    (hlater : errand.isChange = true → ∀ v, r.versions.lookup uri = some v → v < v + 1) :
    (r.step action).VersionsFit uri := by
  constructor
  case lookup =>
    intro u call errand' ds hroutes
    obtain ⟨-, rfl, -⟩ := hout.routes hroutes
    exact hout.version
  case routed =>
    intro u call errand' ds hroutes
    obtain ⟨-, -, rfl⟩ := hout.routes hroutes
    refine ⟨path, hout.names, fun d hm => ?_⟩
    obtain ⟨e, he, rfl⟩ := List.mem_map.1 hm
    rwa [matching_before (servers_steps r action).before]
  case wanted => exact hx.wanted_quiet hd hs
  case delivery =>
    intro u call errand' ds d hroutes hm
    obtain ⟨rfl, rfl, rfl⟩ := hout.routes hroutes
    obtain ⟨e, -, rfl⟩ := List.mem_map.1 hm
    intro u' language text version heq h w hi ho hw
    obtain ⟨v, hv, hle⟩ | ⟨t, call', errand', ds', d', hroutes', -⟩ :=
      hx.tracked_quiet hd hs hi ho hw
    · rw [hout.next heq, nextVersion, hv]
      exact Int32.lt_of_le_of_lt hle (hlater (by rw [heq]; rfl) v hv)
    · exact absurd hroutes' hout.alone
  case tracked =>
    intro e h w hi ho hw
    obtain ⟨path', hnames, hm⟩ := hx.wanted (ho.of_quiet hd hs)
    rw [matching_congr hnames hout.names] at hm
    obtain ⟨call, hroutes⟩ := hout.sent (List.ne_nil_of_mem hm)
    exact .inr ⟨t, call, errand, _, ⟨e, .begun⟩, hroutes, List.mem_map.2 ⟨e, hm, rfl⟩, rfl, trivial⟩

include hr

theorem VersionsFit.quiet (hroom : r.HasRoom uri action) : (r.step action).VersionsFit uri := by
  obtain hrests | ⟨t, errand, path, hout, hwrote⟩ := routes_step hr hd hs uri
  · exact hx.rests hr hd hs hrests
  · exact hx.setsOut hd hs hout fun hc => hroom t (hwrote hc)

end Quiet

theorem versions_advance (r : Registry) (errand : Errand) (d : Delivery) (entry : Entry) :
    (r.advance errand d entry).1.versions = r.versions := by
  have harrive (h : Nat) : (r.arrive errand d.entry entry h).1.versions = r.versions := by
    unfold arrive
    repeat' split
    all_goals rfl
  unfold advance seek
  repeat' split
  all_goals first | exact harrive _ | rfl

theorem versionAt_setDelivery (r : Registry) (t : Nat) (errand : Errand) (ds : List Delivery)
    (i : Nat) (stage : DeliveryStage) (h : Nat) (uri : String) :
    (r.setDelivery t errand ds i stage).versionAt h uri = r.versionAt h uri :=
  versionAt_of_traffic (congrArg Prod.snd (traffic_finish _ t)) h uri

section SetDelivery

variable {stage : DeliveryStage} (htasks : r'.tasks = r.tasks)
variable (ht : r.tasks[t]? = some ⟨call, .routing errand ds⟩) (hd : ds[i]? = some d)

include htasks ht hd

/-- A task that tells servers of a document once a delivery has gone on did so before, and the
servers are the same. -/
theorem Routes.of_setDelivery {call' : RegistryCall} {errand' : Errand} {ds' : List Delivery}
    (hs : (r'.setDelivery t errand ds i stage).Routes u call' errand' ds' uri) :
    ∃ old, r.Routes u call' errand' old uri ∧ ds'.map (·.entry) = old.map (·.entry) := by
  obtain ⟨hu, hturn⟩ := hs
  by_cases heq : u = t
  · subst heq
    obtain ⟨e, old⟩ := d
    have ht' : r'.tasks[u]? = some ⟨call, .routing errand ds⟩ := by rw [htasks, ht]
    obtain ⟨ds'', hown, hother, -, ⟨-, hnew⟩ | ⟨-, hnew⟩⟩ := task_setDelivery errand stage ht' hd
    · cases hu.symm.trans hnew
      refine ⟨ds, ⟨ht, hturn⟩, List.ext_getElem? fun j => ?_⟩
      rw [List.getElem?_map, List.getElem?_map]
      by_cases hj : j = i
      · rw [hj, hown, hd]
        rfl
      · rw [hother j hj]
    · cases hu.symm.trans hnew
  · rw [tasks_setDelivery_of_ne htasks heq] at hu
    exact ⟨ds', ⟨hu, hturn⟩, rfl⟩

/-- A delivery that is still pending goes on being so, unless it is the one that goes on. -/
theorem Pending.setDelivery (hp : r.Pending e uri) :
    (r'.setDelivery t errand ds i stage).Pending e uri ∨
      r.Routes t call errand ds uri ∧ d.entry = e ∧ d.stage.IsPending uri := by
  obtain ⟨u, call', errand', ds', x, ⟨hu, hturn⟩, hm, he, hpend⟩ := hp
  by_cases heq : u = t
  · subst heq
    cases ht.symm.trans hu
    obtain ⟨k, hk⟩ := List.mem_iff_getElem?.1 hm
    by_cases hki : k = i
    · subst hki
      cases hd.symm.trans hk
      exact .inr ⟨⟨ht, hturn⟩, he, hpend⟩
    · obtain ⟨e', old⟩ := d
      have ht' : r'.tasks[u]? = some ⟨call, .routing errand ds⟩ := by rw [htasks, ht]
      obtain ⟨ds'', -, hother, -, ⟨-, hnew⟩ | ⟨hall, -⟩⟩ := task_setDelivery errand stage ht' hd
      · have hx := List.mem_of_getElem? ((hother k hki).trans hk)
        exact .inl ⟨u, call, errand, ds'', x, ⟨hnew, hturn⟩, hx, he, hpend⟩
      · have hdone := List.all_eq_true.1 hall x (List.mem_of_getElem? ((hother k hki).trans hk))
        obtain ⟨_, xs⟩ := x
        cases xs <;> first | exact hpend.elim | cases hdone
  · refine .inl ⟨u, call', errand', ds', x, ⟨?_, hturn⟩, hm, he, hpend⟩
    rw [tasks_setDelivery_of_ne htasks heq, hu]

theorem pending_setDelivery (hturn : ∃ st, errand.turn? = some (uri, st))
    (hs : stage.IsPending uri) : (r'.setDelivery t errand ds i stage).Pending d.entry uri := by
  obtain ⟨e, old⟩ := d
  have ht' : r'.tasks[t]? = some ⟨call, .routing errand ds⟩ := by rw [htasks, ht]
  obtain ⟨ds', hown, -, -, ⟨-, hnew⟩ | ⟨hall, -⟩⟩ := task_setDelivery errand stage ht' hd
  · exact ⟨t, call, errand, ds', _, ⟨hnew, hturn⟩, List.mem_of_getElem? hown, rfl, hs⟩
  · have hdone := List.all_eq_true.1 hall _ (List.mem_of_getElem? hown)
    cases stage <;> first | exact hs.elim | cases hdone

/-- Versions stand as they should once a delivery has gone on, if that one does and what was done
concerns its document at its entry only. -/
theorem VersionsFit.setDelivery (hx : r.VersionsFit uri) (hr : r.Reachable)
    (hs : Servers.Steps r.servers (r'.setDelivery t errand ds i stage).servers)
    (hversions : r'.versions = r.versions)
    (hown : r.Routes t call errand ds uri →
      (r'.setDelivery t errand ds i stage).DeliveryVersions errand uri d.entry stage)
    (ho : ∀ e, (r'.setDelivery t errand ds i stage).Opened e uri →
      r.Opened e uri ∨ e = d.entry ∧ r.Routes t call errand ds uri)
    (hv : ∀ j w, (r'.setDelivery t errand ds i stage).versionAt j uri = some w →
      r.versionAt j uri = some w ∨ r.Serves d.entry j ∧ r.Routes t call errand ds uri)
    (htracked : ∀ j w, r.Routes t call errand ds uri → r.Installed d.entry j →
      (r'.setDelivery t errand ds i stage).Opened d.entry uri →
      (r'.setDelivery t errand ds i stage).versionAt j uri = some w →
        (∃ v, r.versions.lookup uri = some v ∧ w ≤ v) ∨
          (r'.setDelivery t errand ds i stage).Pending d.entry uri) :
    (r'.setDelivery t errand ds i stage).VersionsFit uri := by
  have hlookup : (r'.setDelivery t errand ds i stage).versions = r.versions :=
    (versions_finish _ t).trans hversions
  have hlt {j : Nat} {w : Int32}
      (hw : (r'.setDelivery t errand ds i stage).versionAt j uri = some w) :
      j < r.handles.length :=
    (hv j w hw).elim (versionAt_eq_some_lt · hr) (·.1.lt)
  constructor
  case lookup =>
    intro u call' errand' ds' hroutes
    obtain ⟨old, hold, -⟩ := hroutes.of_setDelivery htasks ht hd
    rw [hlookup]
    exact hx.lookup hold
  case routed =>
    intro u call' errand' ds' hroutes
    obtain ⟨old, hold, hsame⟩ := hroutes.of_setDelivery htasks ht hd
    obtain ⟨path, hnames, hall⟩ := hx.routed hold
    refine ⟨path, hnames, fun d' hm => ?_⟩
    have hm' := List.mem_map_of_mem (f := (·.entry)) hm
    rw [hsame] at hm'
    obtain ⟨x, hmx, hentry⟩ := List.mem_map.1 hm'
    rw [matching_before hs.before, ← hentry]
    exact hall x hmx
  case wanted =>
    intro e hop
    simp only [matching_before hs.before]
    obtain hop | ⟨rfl, hroutes⟩ := ho e hop
    · exact hx.wanted hop
    · obtain ⟨path, hnames, hall⟩ := hx.routed hroutes
      exact ⟨path, hnames, hall d (List.mem_of_getElem? hd)⟩
  case delivery =>
    intro u call' errand' ds' d' hroutes hm
    obtain ⟨hu, st, hturn⟩ := hroutes
    obtain ⟨rfl, rfl⟩ | ⟨old, hold, hmold, hun⟩ := others_setDelivery htasks ht hd hr hu hm hturn
    · exact hown ⟨ht, st, hturn⟩
    · have hold' : r.Routes u call' errand' old uri := ⟨hold, st, hturn⟩
      refine (hx.delivery hold' hmold).keep hr (hold'.fits hr hmold) hs.arrives (fun hop => ?_)
        (fun j w hw hj => ?_) fun j w hw => hlt hw
      · obtain hop | ⟨heq, hroutes⟩ := ho d'.entry hop
        · exact hop
        · exact absurd ⟨heq, hroutes.2⟩ hun
      · obtain hw | ⟨hj', hroutes⟩ := hv j w hw
        · exact hw
        · exact absurd ⟨hj.unique hj', hroutes.2⟩ hun
  case tracked =>
    intro e j w hi hop hw
    have hi' := hi.earlier hs.arrives (hlt hw)
    rw [hlookup]
    by_cases hc : e = d.entry ∧ r.Routes t call errand ds uri
    · obtain ⟨rfl, hroutes⟩ := hc
      exact htracked j w hroutes hi' hop hw
    · have hop' := (ho e hop).resolve_right hc
      have hw' := (hv j w hw).resolve_right fun h => hc ⟨(hi'.serves hr).unique h.1, h.2⟩
      refine (hx.tracked hi' hop' hw').imp_right fun hp => ?_
      exact (hp.setDelivery htasks ht hd).resolve_right fun h => hc ⟨h.2.1.symm, h.1⟩

end SetDelivery

/-- Only what entries have and what servers have accepted matters to a delivery here. -/
theorem DeliveryVersions.of_same {stage : DeliveryStage}
    (hd : r.DeliveryVersions errand uri e stage) (he : r'.entries = r.entries)
    (ht : r'.traffic.2 = r.traffic.2) : r'.DeliveryVersions errand uri e stage := by
  cases stage with
  | done outcome => trivial
  | _ => simpa only [DeliveryVersions, Installed, Opened, versionAt, he, ht] using hd

theorem arrive_versions (hothers : ∀ j, r.Installed e j → j ≠ h → r.versionAt j uri = none)
    (he : r.entries[e]? = some entry)
    (hlater : r.Opened e uri → ∀ language text version,
      errand = .changing uri language text version →
        ∀ w, r.versionAt h uri = some w → w < version) :
    (r.arrive errand e entry h).1.DeliveryVersions errand uri e
      (r.arrive errand e entry h).2 := by
  have hversion (j : Nat) : (r.arrive errand e entry h).1.versionAt j uri = r.versionAt j uri :=
    versionAt_of_traffic (congrArg Prod.snd (traffic_arrive r errand e entry h)) j uri
  have hnone (j : Nat) (hi : (r.arrive errand e entry h).1.Installed e j) (hne : j ≠ h) :
      (r.arrive errand e entry h).1.versionAt j uri = none := by
    rw [hversion]
    exact hothers j (hi.of_servers (servers_arrive r errand e entry h)) hne
  cases errand with
  | start => trivial
  | telling method params => exact ⟨hnone, fun _ _ heq => by cases heq⟩
  | opening u language text => exact ⟨hnone, fun _ _ heq => by cases heq⟩
  | closing u =>
    simp only [arrive] at hnone ⊢
    split
    · rename_i hc
      rw [if_pos hc] at hnone
      exact ⟨hnone, fun _ _ heq => by cases heq⟩
    · trivial
  | changing u language text version =>
    simp only [arrive] at hversion hnone ⊢
    split
    · rename_i hc
      rw [if_pos hc] at hversion hnone
      refine ⟨hnone, ?_⟩
      rintro _ _ ⟨⟩ w hw
      exact hlater ⟨entry, he, List.contains_iff_mem.1 hc⟩ language text version rfl w hw
    · rename_i hc
      rw [if_neg hc] at hnone
      exact ⟨hnone, fun _ _ heq => by cases heq⟩

theorem VersionsFit.advance (hx : r.VersionsFit uri) (hr : r.Reachable)
    (hroutes : r.Routes t call errand ds uri) (hm : d ∈ ds)
    (he : r.entries[d.entry]? = some entry) :
    (r.advance errand d entry).1.DeliveryVersions errand uri d.entry
      (r.advance errand d entry).2 := by
  have hold := hx.delivery hroutes hm
  obtain ⟨ht, st, hturn⟩ := hroutes
  have hrecorded := hr.recordFits.delivery ht hm hturn
  obtain ⟨e, old⟩ := d
  cases old with
  | done outcome => exact hold
  | sending h notice => exact hold
  | starting a =>
    simp only [Registry.advance]
    split
    · exact hold
    · rename_i h hout
      exact arrive_versions (fun j hi _ => hold j hi) he fun ho => absurd ho (hrecorded h hout)
    · trivial
  | begun =>
    have hfound {h : Nat} (hst : entry.slot.state = .started h) :
        (r.arrive errand e entry h).1.DeliveryVersions errand uri e
          (r.arrive errand e entry h).2 := by
      have hi : r.Installed e h := ⟨entry, he, hst⟩
      refine arrive_versions (fun j hj hne => absurd (hj.handle_unique hi) hne) he ?_
      intro ho language text version heq w hw
      exact hold uri language text version heq h w hi ho hw
    simp only [Registry.advance, seek]
    split
    · split
      · rename_i h hh
        exact hfound (Slot.handle?_eq_some.1 hh)
      · trivial
    · split
      · trivial
      · split
        · rename_i h hst
          exact hfound hst
        · rename_i a hst
          rintro h ⟨entry', he', hst'⟩
          cases he.symm.trans he'
          cases hst.symm.trans hst'
        · rintro h ⟨entry', he', hst'⟩
          simp only [beginAttempt, note, modifyEntry, List.getElem?_modify_eq, he] at he'
          cases he'
          cases hst'

/-- A document stays on record at its own delivery where an opening is sent or a change. -/
theorem arrive_tracked (he : r.entries[e]? = some entry)
    (hturn : ∃ st, errand.turn? = some (uri, st))
    (ho : (r.arrive errand e entry h).1.Opened e uri) :
    (r.arrive errand e entry h).2.IsPending uri ∨
      ∃ language text version, errand = .changing uri language text version := by
  obtain ⟨st, hturn⟩ := hturn
  cases errand with
  | start => cases hturn
  | telling method params => cases hturn
  | opening u language text =>
    cases hturn
    exact .inl rfl
  | changing u language text version =>
    cases hturn
    exact .inr ⟨language, text, version, rfl⟩
  | closing u =>
    cases hturn
    obtain ⟨y, hy, hm⟩ := ho
    simp only [arrive] at hy
    split at hy
    · simp only [modifyEntry, List.getElem?_modify_eq, he] at hy
      cases hy
      simp [Entry.removeOpened] at hm
    · rename_i hc
      cases he.symm.trans hy
      exact absurd (List.contains_iff_mem.2 hm) hc

theorem advance_of_installed (hr : r.Reachable) (hi : r.Installed e h)
    (he : r.entries[e]? = some entry) (errand : Errand) :
    r.advance errand ⟨e, .begun⟩ entry = r.arrive errand e entry h := by
  obtain ⟨entry', he', hst, hu⟩ := hi.usable hr
  cases he.symm.trans he'
  have hh : entry.handle? = some h := Slot.handle?_eq_some.2 hst
  simp only [Registry.advance, seek]
  split
  · simp only [hh]
  · simp only [hu, hst]
    rfl

theorem VersionsFit.deliver (hx : r.VersionsFit uri) (hr : r.Reachable) (t i : Nat) :
    (r.deliver t i).VersionsFit uri := by
  have hversion (j : Nat) : (r.deliver t i).versionAt j uri = r.versionAt j uri :=
    versionAt_of_traffic (congrArg Prod.snd (traffic_deliver r t i)) j uri
  have hsteps : Servers.Steps r.servers (r.deliver t i).servers := servers_steps r (.deliver t i)
  obtain heq | ⟨call, errand, ds, d, entry, ht, hd, he, heq⟩ := deliver_cases r t i
  · rwa [heq]
  rw [heq] at hversion hsteps ⊢
  have htasks := tasks_advance r errand d entry
  have hm := List.mem_of_getElem? hd
  have hentries := entries_setDelivery (r.advance errand d entry).1 t errand ds i
    (r.advance errand d entry).2
  obtain ⟨-, hfits, -⟩ := hr.taskFits t _ ht
  have hfit := advance_fits hr.sound he (hfits d hm)
  have hopened (e : Nat)
      (ho : ((r.advance errand d entry).1.setDelivery t errand ds i
        (r.advance errand d entry).2).Opened e uri) :
      r.Opened e uri ∨ e = d.entry ∧ r.Routes t call errand ds uri ∧
        (r.advance errand d entry).2.IsPending uri := by
    refine (opened_of_advance (ho.of_entries hentries.symm)).imp_right ?_
    rintro ⟨heq, h, language, version, text, hst⟩
    rw [hst] at hfit ⊢
    exact ⟨heq, ⟨ht, Errand.turn?_of_sends hfit.1 rfl⟩, rfl⟩
  refine hx.setDelivery htasks ht hd hr hsteps (versions_advance r errand d entry)
    (fun hroutes => ?_) (fun e ho => (hopened e ho).imp_right fun h => ⟨h.1, h.2.1⟩)
    (fun j w hw => .inl ((hversion j).symm.trans hw)) fun j w hroutes hi ho hw => ?_
  · exact (hx.advance hr hroutes hm he).of_same hentries (congrArg Prod.snd (traffic_finish _ t))
  · rw [hversion] at hw
    have hpending (hs : (r.advance errand d entry).2.IsPending uri) :=
      pending_setDelivery htasks ht hd hroutes.2 hs
    obtain ho' | ⟨-, -, hs⟩ := hopened d.entry ho
    · refine (hx.tracked hi ho' hw).elim .inl fun hp => ?_
      obtain hp | ⟨-, -, hs⟩ := hp.setDelivery htasks ht hd
      · exact .inr hp
      obtain ⟨e, old⟩ := d
      cases old with
      | begun =>
        rw [advance_of_installed hr hi he] at hpending ho ⊢
        have ho := ho.of_entries (entries_setDelivery _ t errand ds i _).symm
        obtain hs | ⟨language, text, version, rfl⟩ := arrive_tracked he hroutes.2 ho
        · exact .inr (hpending hs)
        · have hlt := hx.delivery hroutes hm uri language text version rfl j w hi ho' hw
          exact .inl ⟨version, hx.lookup hroutes, Int32.le_of_lt hlt⟩
      | sending h notice => exact .inr (hpending hs)
      | starting a => exact hs.elim
      | done outcome => exact hs.elim
    · exact .inr (hpending hs)

theorem version?_of_sends {j : Nat} (hs : errand.Sends notice)
    (hv : (RegistryEvent.accepted t h notice).version? j uri = some (some w)) :
    errand.version? = some w := by
  have hif {p : Prop} [Decidable p] {x y : Option Int32}
      (h : (if p then some x else none) = some y) : x = y := by
    split at h
    · exact Option.some_inj.1 h
    · cases h
  cases errand with
  | start => exact hs.elim
  | opening u language text =>
    cases hs
    exact hif hv
  | changing u language text version =>
    obtain rfl | rfl := hs
    all_goals exact hif hv
  | closing u =>
    cases hs
    cases hif hv
  | telling method params =>
    cases hs
    cases hv

section EndSending

variable (hx : r.VersionsFit uri) (hr : r.Reachable)
variable (ht : r.tasks[t]? = some ⟨call, .routing errand ds⟩)
variable (hd : ds[i]? = some ⟨e, .sending h notice⟩)

include hx hr ht hd

theorem VersionsFit.accepted :
    ((r.note (.accepted t h notice)).setDelivery t errand ds i
      (.done (.accepted h))).VersionsFit uri := by
  have hm := List.mem_of_getElem? hd
  obtain ⟨-, hfits, -⟩ := hr.taskFits t _ ht
  obtain ⟨hsends, hserves⟩ : errand.Sends notice ∧ r.Serves e h := hfits _ hm
  have htasks : (r.note (.accepted t h notice)).tasks = r.tasks := rfl
  have hsame : (r.note (.accepted t h notice)).servers = r.servers := rfl
  have hsteps : Servers.Steps r.servers ((r.note (.accepted t h notice)).setDelivery t errand ds i
      (.done (.accepted h))).servers := by
    rw [servers_setDelivery_of_eq ht hsame htasks]
  have hopened (e' : Nat) (ho : ((r.note (.accepted t h notice)).setDelivery t errand ds i
      (.done (.accepted h))).Opened e' uri) : r.Opened e' uri :=
    ho.of_entries (entries_setDelivery (r.note (.accepted t h notice)) t errand ds i _).symm
  have hversion (j : Nat) : ((r.note (.accepted t h notice)).setDelivery t errand ds i
      (.done (.accepted h))).versionAt j uri =
        ((RegistryEvent.accepted t h notice).version? j uri).getD (r.versionAt j uri) := by
    rw [versionAt_setDelivery]
    exact RegistryEvent.versionAt_cons _ _ j uri
  refine hx.setDelivery htasks ht hd hr hsteps rfl (fun _ => trivial)
    (fun e' ho => .inl (hopened e' ho)) (fun j w hw => ?_) fun j w hroutes hi ho hw => ?_
  · rw [hversion] at hw
    cases ho : (RegistryEvent.accepted t h notice).version? j uri with
    | none =>
      rw [ho] at hw
      exact .inl hw
    | some version =>
      obtain ⟨_, _, heq, hn⟩ := RegistryEvent.version?_eq_some ho
      cases heq
      exact .inr ⟨hserves, ht, Errand.turn?_of_sends hsends hn⟩
  · rw [hversion] at hw
    cases hc : (RegistryEvent.accepted t h notice).version? j uri with
    | some version =>
      rw [hc] at hw
      cases hw
      exact .inl ⟨w, (hx.lookup hroutes).trans (version?_of_sends hsends hc), Int32.le_refl w⟩
    | none =>
      rw [hc] at hw
      refine (hx.tracked hi (hopened _ ho) hw).imp_right fun hp => ?_
      refine (hp.setDelivery htasks ht hd).resolve_right ?_
      rintro ⟨-, -, hs⟩
      have hnone := (hx.delivery hroutes hm).1 j hi
      cases notice with
      | didOpen u language version text =>
        obtain rfl : u = uri := hs
        have hne : j ≠ h := by
          rintro rfl
          simp [RegistryEvent.version?] at hc
        cases (hnone hne).symm.trans hw
      | _ => exact hs.elim

theorem VersionsFit.declined (htasks : r'.tasks = r.tasks) (hservers : r'.servers = r.servers)
    (hversions : r'.versions = r.versions) (hhistory : r'.history = r.history)
    (hopened : ∀ e', r'.Opened e' uri → r.Opened e' uri ∧
      ¬ (e' = e ∧ ∃ language version text, notice = .didOpen uri language version text)) :
    (r'.setDelivery t errand ds i (.done .declined)).VersionsFit uri := by
  have hsteps : Servers.Steps r.servers
      (r'.setDelivery t errand ds i (.done .declined)).servers := by
    rw [servers_setDelivery_of_eq ht hservers htasks]
  have hopened' (e' : Nat) (ho : (r'.setDelivery t errand ds i (.done .declined)).Opened e' uri) :=
    hopened e' (ho.of_entries (entries_setDelivery r' t errand ds i _).symm)
  have hversion (j : Nat) : (r'.setDelivery t errand ds i (.done .declined)).versionAt j uri =
      r.versionAt j uri := by
    rw [versionAt_setDelivery, versionAt, versionAt, traffic, traffic, hhistory]
  refine hx.setDelivery htasks ht hd hr hsteps hversions (fun _ => trivial)
    (fun e' ho => .inl (hopened' e' ho).1) (fun j w hw => .inl ((hversion j).symm.trans hw))
    fun j w hroutes hi ho hw => ?_
  rw [hversion] at hw
  obtain ⟨ho', hn⟩ := hopened' e ho
  refine (hx.tracked hi ho' hw).imp_right fun hp => ?_
  refine (hp.setDelivery htasks ht hd).resolve_right ?_
  rintro ⟨-, -, hs⟩
  cases notice with
  | didOpen u language version text =>
    obtain rfl : u = uri := hs
    exact hn ⟨rfl, language, version, text, rfl⟩
  | _ => exact hs.elim

end EndSending

theorem versions_sent (r : Registry) (t e h : Nat) (notice : Notice) (accepted : Bool) :
    (r.sent t e h notice accepted).1.versions = r.versions := by
  unfold sent
  dsimp only
  split
  · rfl
  · cases notice <;> rfl

theorem VersionsFit.endSending (hx : r.VersionsFit uri) (hr : r.Reachable) (t i : Nat)
    (accepted : Bool) : (r.endSending t i accepted).VersionsFit uri := by
  obtain heq | ⟨call, errand, ds, e, h, notice, ht, hd, heq⟩ := endSending_cases r t i accepted
  · rwa [heq]
  rw [heq]
  obtain ⟨-, heq⟩ | ⟨hstage, hhistory, hopened⟩ := sent_spec r t e h notice accepted
  · rw [heq]
    exact hx.accepted hr ht hd
  · rw [hstage]
    exact hx.declined hr ht hd (tasks_sent r t e h notice accepted)
      (servers_sent r t e h notice accepted) (versions_sent r t e h notice accepted) hhistory
      fun e' ho => hopened e' uri ho

theorem VersionsFit.step (hx : r.VersionsFit uri) (hr : r.Reachable) (action : RegistryAction)
    (hroom : r.HasRoom uri action) : (r.step action).VersionsFit uri := by
  by_cases hd : ∃ t i, action = .deliver t i
  · obtain ⟨t, i, rfl⟩ := hd
    exact hx.deliver hr t i
  by_cases hs : ∃ t i accepted, action = .sent t i accepted
  · obtain ⟨t, i, accepted, rfl⟩ := hs
    exact hx.endSending hr t i accepted
  exact hx.quiet hr (fun t i heq => hd ⟨t, i, heq⟩)
    (fun t i accepted heq => hs ⟨t, i, accepted, heq⟩) hroom

theorem Fresh.versionsFit (hr : r.Fresh) (uri : String) : r.VersionsFit uri := by
  obtain ⟨root, configs, watch, commandExists, handshakeMs, rfl⟩ := hr
  have hnone (e : Nat) :
      ¬ (ofConfigs root configs watch commandExists handshakeMs).Opened e uri := by
    rintro ⟨entry, he, hm⟩
    simp only [ofConfigs, List.getElem?_map] at he
    obtain ⟨config, -, rfl⟩ := Option.map_eq_some_iff.1 he
    cases hm
  constructor
  case lookup => exact fun hroutes => by cases hroutes.1
  case routed => exact fun hroutes => by cases hroutes.1
  case wanted => exact fun ho => absurd ho (hnone _)
  case delivery => exact fun hroutes => by cases hroutes.1
  case tracked => exact fun _ ho => absurd ho (hnone _)

theorem wrote_concat (r : Registry) (uri : String) (actions : List RegistryAction)
    (action : RegistryAction) : r.wrote uri (actions ++ [action]) =
      r.wrote uri actions ++
        ((r.run actions).turnEvents action).filterMap (TurnEvent.wrote? uri) := by
  induction actions generalizing r with
  | nil => simp [wrote, turnsOf, run]
  | cons first actions ih =>
    have h := ih (r.step first)
    simp only [wrote, List.cons_append, turnsOf, List.filterMap_append] at h ⊢
    rw [h, List.append_assoc]
    rfl

theorem turnEvents_of_change (hm : .wrote t uri .changed ∈ r.turnEvents action) :
    r.turnEvents action = [.wrote t uri .changed] := by
  have hturn {event : DocumentEvent} {u : Nat} {uri' : String}
      (h : TurnEvent.wrote t uri .changed ∈ TurnEvent.turn u event uri') : False := by
    cases event <;> simp [TurnEvent.turn] at h
  cases action with
  | resume u =>
    simp only [turnEvents] at hm
    split at hm
    · split at hm
      · obtain h | h := List.mem_cons.1 hm
        · cases h
        · split at h
          · exact (hturn h).elim
          · cases h
      · cases hm
    · split at hm
      · exact (hturn hm).elim
      · cases hm
    · cases hm
  | read u result =>
    cases result with
    | error e => cases hm
    | ok text =>
      simp only [turnEvents] at hm ⊢
      split at hm
      · cases List.mem_singleton.1 hm
        rfl
      · cases hm
  | _ => cases hm

theorem hasRoom_of_fresh {actions : List RegistryAction} (hr : r.Fresh)
    (hroom : DocumentEvent.RoomFor ((r.wrote uri (actions ++ [action])).map (·.2))) :
    (r.run actions).HasRoom uri action := by
  intro t hm v hv
  have hnone : r.turns.versions.lookup uri = none := by
    obtain ⟨_, _, _, _, _, rfl⟩ := hr
    rfl
  have hversion : (r.run actions).versions.lookup uri = ((r.wrote uri actions).map (·.2)).foldl
      (fun version event => event.version version) none := by
    rw [List.foldl_map, ← hnone]
    exact (turns_run hr.reachable actions).version uri
  obtain ⟨n, ⟨first, hfirst⟩, hn⟩ := DocumentEvent.foldl_version (hversion.symm.trans hv)
  refine DocumentEvent.lt_add_one_of_version ?_ hn
  refine hroom (n + 1) (List.IsSuffix.isInfix ⟨first, ?_⟩)
  rw [wrote_concat, turnEvents_of_change hm, List.map_append, List.replicate_succ',
    ← List.append_assoc]
  exact congrArg₂ (· ++ ·) hfirst (by simp [TurnEvent.wrote?])

theorem wrote_grows (r : Registry) (uri : String) (actions : List RegistryAction)
    (action : RegistryAction) : (r.wrote uri actions).map (·.2) <+:
      (r.wrote uri (actions ++ [action])).map (·.2) := by
  rw [wrote_concat, List.map_append]
  exact List.prefix_append _ _

theorem Fresh.versionsFit_run (hr : r.Fresh) {actions : List RegistryAction}
    (hroom : DocumentEvent.RoomFor ((r.wrote uri actions).map (·.2))) :
    (r.run actions).VersionsFit uri := by
  induction actions using List.reverseRecOn with
  | nil => exact hr.versionsFit uri
  | append_singleton actions action ih =>
    rw [run_append]
    exact (ih (hroom.of_prefix (wrote_grows r uri actions action))).step
      (hr.reachable.run actions) action (hasRoom_of_fresh hr hroom)

/-- A change that a server accepts gives it a later version of the document than it has, unless the
document has been changed so often since its opening that there is none left. -/
theorem versions_increase (hr : r.Fresh) {actions : List RegistryAction}
    (hroom : DocumentEvent.RoomFor ((r.wrote uri actions).map (·.2)))
    {version : Int32} {text : String} {before : List RegistryEvent}
    (hs : .accepted t h (.didChange uri version text) :: before <:+ (r.run actions).history)
    (hw : RegistryEvent.versionAt before h uri = some w) : w < version := by
  induction actions using List.reverseRecOn with
  | nil =>
    obtain ⟨_, _, _, _, _, rfl⟩ := hr
    cases List.suffix_nil.1 hs
  | append_singleton actions action ih =>
    have hroom' := hroom.of_prefix (wrote_grows r uri actions action)
    rw [run_append] at hs
    obtain hs | ⟨rfl, call, errand, ds, d, ht, hm, hst⟩ := accepted_suffix hs
    · exact ih hroom' hs
    · obtain ⟨-, hfits, -⟩ := (hr.reachable.run actions).taskFits t _ ht
      have hfit := hfits d hm
      rw [hst] at hfit
      have hd := (hr.versionsFit_run hroom').delivery ⟨ht, Errand.turn?_of_sends hfit.1 rfl⟩ hm
      rw [hst] at hd
      refine hd.2 version text rfl w ?_
      rwa [Registry.versionAt, traffic, RegistryEvent.versionAt_filter]

end Registry

end Switchyard
