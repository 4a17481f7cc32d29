import Mathlib.Data.List.Nodup
import Switchyard.Proofs.Diagnostic.Reported
import Switchyard.Proofs.Registry.Counts
import Switchyard.Proofs.Registry.Published

namespace Switchyard

namespace FileDiagnostics

/-- The clients that have a slice, in the order in which they came in. -/
def clients (f : FileDiagnostics) : List String := f.slices.map (·.1)

theorem length_clients (f : FileDiagnostics) : f.clients.length = f.clientCount :=
  List.length_map _

theorem mem_clients {f : FileDiagnostics} {client : String} :
    client ∈ f.clients ↔ (f.forClient? client).isSome := by
  rw [clients, forClient?, List.lookup_isSome_iff, List.mem_map]
  refine exists_congr fun s => and_congr_right fun _ => ?_
  rw [beq_iff_eq, eq_comm]

end FileDiagnostics

/-- An action that drops the slice that a client has of a document. -/
def RegistryAction.Clears (uri client : String) (action : RegistryAction) : Prop :=
  action = .hub (.clear uri none) ∨ action = .hub (.clear uri (some client))

namespace Reporting

variable {uri client : String} {call : HubCall} {past : List HubCall}

theorem slice?_isSome_cons (hs : (slice? uri client past).isSome)
    (hc : ¬ (RegistryAction.hub call).Clears uri client) :
    (slice? uri client (call :: past)).isSome := by
  cases call with
  | upsert uri' client' items version =>
    rw [slice?]
    split
    · rfl
    · exact hs
  | clear uri' client' =>
    rw [slice?, if_neg]
    · exact hs
    · rintro ⟨rfl, rfl | rfl⟩
      · exact hc (.inl rfl)
      · exact hc (.inr rfl)
  | _ => exact hs

end Reporting

namespace Registry

variable {r : Registry} {t e h : Nat} {uri client : String} {file : Path}
  {record : FileDiagnostics}

theorem resolve_run (r : Registry) (actions : List RegistryAction) (file : Path) :
    (r.run actions).resolve file = r.resolve file := by
  have hroot : (r.run actions).root = r.root := (servers_run r actions).before.root
  rw [resolve, resolve, hroot]

/-- The hub stays as it is in a step, or is used once: for a report, or as the action says. -/
theorem hub_step (r : Registry) (action : RegistryAction) :
    (r.step action).hub = r.hub ∨ ∃ call, (r.step action).hub = r.hub.use call ∧
      (action = .hub call ∨
        ∃ uri client items version, call = .upsert uri client items version) := by
  obtain heq | ⟨_, _, _, _, heq⟩ | ⟨h, method, params, rfl⟩ | ⟨call, rfl⟩ := traffic_step r action
  · exact .inl (congrArg Prod.fst heq)
  · exact .inl (congrArg Prod.fst heq)
  · obtain heq | ⟨client, p, -, -, heq⟩ := receive_cases r h method params
    · exact .inl (congrArg Registry.hub heq)
    · exact .inr ⟨_, congrArg Registry.hub heq, .inr ⟨_, _, _, _, rfl⟩⟩
  · exact .inr ⟨call, rfl, .inl rfl⟩

/-- The store has what the uses of the hub have reported, the last one first. -/
def HasReported (r : Registry) (past : List HubCall) : Prop :=
  ∀ uri, r.hub.store.get? uri = Reporting.record? uri past

/-- A step adds one use to the past at most, and that drops no slice unless the action does. -/
theorem HasReported.step {past : List HubCall} (hp : r.HasReported past)
    (action : RegistryAction) :
    (r.step action).HasReported past ∨ ∃ call, (r.step action).HasReported (call :: past) ∧
      ∀ uri client, ¬ action.Clears uri client → ¬ (RegistryAction.hub call).Clears uri client := by
  obtain heq | ⟨call, heq, hcall⟩ := hub_step r action
  · exact .inl fun uri => (congrArg (·.store.get? uri) heq).trans (hp uri)
  · refine .inr ⟨call, fun uri => ?_, fun uri client hn => ?_⟩
    · rw [heq, DiagnosticsHub.store_use]
      exact DiagnosticsHub.get?_call hp call uri
    · obtain rfl | ⟨_, _, _, _, rfl⟩ := hcall
      · exact hn
      · rintro (h | h) <;> cases h

theorem Reachable.hasReported (hr : r.Reachable) : ∃ past, r.HasReported past := by
  apply hr.induction (p := fun r => ∃ past, r.HasReported past)
  · intro root configs watch commandExists handshakeMs
    exact ⟨[], fun _ => rfl⟩
  · rintro r action - ⟨past, hp⟩
    obtain hp | ⟨call, hp, -⟩ := hp.step action
    · exact ⟨past, hp⟩
    · exact ⟨_, hp⟩

theorem Reachable.clients_nodup (hr : r.Reachable) (hf : r.hub.store.get? uri = some record) :
    record.clients.Nodup := by
  obtain ⟨past, hp⟩ := hr.hasReported
  rw [hp] at hf
  obtain ⟨-, -, hnodup, -⟩ := Reporting.record?_fits hf
  exact hnodup

def HasSlice (r : Registry) (uri client : String) : Prop :=
  ((r.hub.store.get? uri).bind (·.forClient? client)).isSome

theorem HasReported.hasSlice_iff {past : List HubCall} (hp : r.HasReported past) :
    r.HasSlice uri client ↔ (Reporting.slice? uri client past).isSome := by
  rw [HasSlice, hp, Reporting.forClient?_record?]

theorem HasSlice.step (hr : r.Reachable) (hs : r.HasSlice uri client) {action : RegistryAction}
    (hc : ¬ action.Clears uri client) : (r.step action).HasSlice uri client := by
  obtain ⟨past, hp⟩ := hr.hasReported
  rw [hp.hasSlice_iff] at hs
  obtain hp' | ⟨call, hp', hcall⟩ := hp.step action
  · exact hp'.hasSlice_iff.2 hs
  · exact hp'.hasSlice_iff.2 (Reporting.slice?_isSome_cons hs (hcall uri client hc))

theorem HasSlice.run (hr : r.Reachable) (hs : r.HasSlice uri client)
    {actions : List RegistryAction} (hc : ∀ action ∈ actions, ¬ action.Clears uri client) :
    (r.run actions).HasSlice uri client := by
  induction actions generalizing r with
  | nil => exact hs
  | cons action actions ih =>
    obtain ⟨ha, hrest⟩ := List.forall_mem_cons.1 hc
    exact ih (hr.step action) (hs.step hr ha) hrest

/-- A server of a client has reported on a document in a run, under a certain spelling of its URI,
and the slice has not been cleared since. -/
def Publishes (r : Registry) (actions : List RegistryAction) (client uri : String) : Prop :=
  ∃ before h params after e p,
    actions = before ++ .notify h Rpc.publishDiagnostics params :: after ∧
    (r.run before).Serves e h ∧ (r.run before).client? h = some client ∧
    Rpc.PublishDiagnostics.ofParams? params = some p ∧ p.uri = uri ∧
    ∀ action ∈ after, ¬ action.Clears (Uri.canonical uri) client

theorem Publishes.hasSlice {actions : List RegistryAction} (hr : r.Reachable)
    (hp : r.Publishes actions client uri) :
    (r.run actions).HasSlice (Uri.canonical uri) client := by
  obtain ⟨before, h, params, after, e, p, rfl, hs, hclient, hparams, rfl, hafter⟩ := hp
  have hb : (r.run before).Reachable := hr.run before
  obtain ⟨client', hclient', hstep⟩ := hb.receive_publish hs hparams
  cases hclient.symm.trans hclient'
  have hslice : ((r.run before).step (.notify h Rpc.publishDiagnostics params)).HasSlice
      (Uri.canonical p.uri) client := by
    rw [step, hstep, HasSlice, get?_publish]
    exact Option.isSome_iff_exists.2 ⟨_, FileDiagnostics.forClient?_publish _ client _ _⟩
  rw [run_append]
  exact hslice.run (hb.step _) hafter

theorem Reachable.clients_notify {params : Option Json} {p : Rpc.PublishDiagnostics}
    (hr : r.Reachable) (hs : r.Serves e h) (hclient : r.client? h = some client)
    (hp : Rpc.PublishDiagnostics.ofParams? params = some p)
    (hn : r.hub.store.get? (Uri.canonical p.uri) = none) :
    ∃ record, (r.step (.notify h Rpc.publishDiagnostics params)).hub.store.get?
      (Uri.canonical p.uri) = some record ∧ record.clients = [client] := by
  obtain ⟨client', hclient', hstep⟩ := hr.receive_publish hs hp
  cases hclient.symm.trans hclient'
  rw [Registry.step, hstep, get?_publish, hn]
  exact ⟨_, rfl, rfl⟩

def opener? (r : Registry) (t : Nat) : RegistryEvent → Option String
  | .accepted u h (.didOpen _ _ _ _) => if u = t then r.client? h else none
  | _ => none

/-- The clients whose servers took the opening of a document that a task sent them. -/
def openers (r : Registry) (t : Nat) : List String := r.history.filterMap (r.opener? t)

def id? (r : Registry) (e : Nat) : Option String := (r.entries[e]?).map (·.config.id)

theorem Reachable.id?_injective {e' : Nat} (hr : r.Reachable) (he : r.id? e = some client)
    (he' : r.id? e' = some client) : e = e' := by
  obtain ⟨entry, hentry, rfl⟩ := Option.map_eq_some_iff.1 he
  obtain ⟨entry', hentry', hid⟩ := Option.map_eq_some_iff.1 he'
  have h : r.isEntry entry.config.id e' = true := by
    rw [isEntry, hentry', Option.any_some, hid, beq_self_eq_true]
  rw [isEntry_eq hr hentry, beq_iff_eq] at h
  exact h.symm

theorem Reachable.id?_isSome (hr : r.Reachable) (hs : r.Serves e h) : (r.id? e).isSome := by
  obtain ⟨handle, hh, rfl, -⟩ := hs
  obtain ⟨slot, hslot, -⟩ := hr.sound.handle hh
  simp only [servers, List.getElem?_map] at hslot
  obtain ⟨entry, hentry, -⟩ := Option.map_eq_some_iff.1 hslot
  exact Option.isSome_iff_exists.2 ⟨_, Option.map_eq_some_iff.2 ⟨entry, hentry, rfl⟩⟩

theorem Serves.client?_eq (hs : r.Serves e h) : r.client? h = r.id? e := by
  obtain ⟨handle, hh, rfl, -⟩ := hs
  have hclient : r.client? h =
      (r.entries[handle.entry]?).bind fun entry => some entry.config.id := by
    rw [client?, hh]
    rfl
  rw [hclient, id?]
  cases r.entries[handle.entry]? <;> rfl

theorem Reachable.taker_id?_isSome (hr : r.Reachable) (he : e ∈ r.takers t) :
    (r.id? e).isSome := by
  obtain ⟨event, hm, ht⟩ := List.mem_filterMap.1 he
  cases event with
  | accepted u h notice =>
    obtain ⟨_, _, e', -, -, -, hs⟩ := hr.acceptedFits u h notice hm
    by_cases hu : u = t
    · subst hu
      cases (taker?_accepted hs).symm.trans ht
      exact hr.id?_isSome hs
    · rw [taker?, if_neg hu] at ht
      cases ht
  | _ => cases ht

theorem errand_of_opened {call : RegistryCall} {errand : Errand} {notice : Notice}
    (hdoc : call.document? = some (.opened, file)) (hf : r.ErrandFits call errand)
    (hs : errand.Sends notice) : ∃ uri language version text,
      notice = .didOpen uri language version text := by
  cases errand with
  | start => exact hs.elim
  | opening uri language text => exact ⟨_, _, _, _, hs⟩
  | changing uri language text version =>
    obtain ⟨path, file', hc, -⟩ := hf
    cases hdoc.symm.trans hc
  | closing uri =>
    obtain ⟨path, file', hc, -⟩ := hf
    cases hdoc.symm.trans hc
  | telling method params =>
    obtain ⟨file', rfl⟩ := hf
    cases hdoc

/-- Those that took the opening of a document are those that took anything for it. -/
theorem openers_eq {task : Task} (hr : r.Reachable) (ht : r.tasks[t]? = some task)
    (hdoc : task.call.document? = some (.opened, file)) :
    r.openers t = (r.takers t).filterMap r.id? := by
  rw [openers, takers, List.filterMap_filterMap]
  refine List.filterMap_congr fun event hm => ?_
  cases event with
  | accepted u h notice =>
    by_cases hu : u = t
    · subst hu
      obtain ⟨task', errand, e, ht', hf, hsends, hserves⟩ := hr.acceptedFits u h notice hm
      cases ht.symm.trans ht'
      obtain ⟨uri, language, version, text, rfl⟩ := errand_of_opened hdoc hf hsends
      rw [taker?_accepted hserves, Option.bind_some, opener?, if_pos rfl, hserves.client?_eq]
    · cases notice <;> simp [opener?, taker?, hu]
  | _ => rfl

/-- The server of a client took an opening for a task, under a certain URI. -/
def TookOpening (r : Registry) (t : Nat) (client uri : String) : Prop :=
  ∃ h language version text, .accepted t h (.didOpen uri language version text) ∈ r.history ∧
    r.client? h = some client

theorem mem_openers_iff : client ∈ r.openers t ↔ ∃ uri, r.TookOpening t client uri := by
  rw [openers, List.mem_filterMap]
  constructor
  · rintro ⟨event, hm, ho⟩
    unfold opener? at ho
    split at ho
    · split at ho
      · rename_i hu
        subst hu
        exact ⟨_, _, _, _, _, hm, ho⟩
      · cases ho
    · cases ho
  · rintro ⟨uri, h, language, version, text, hm, hc⟩
    exact ⟨_, hm, (if_pos rfl).trans hc⟩

theorem TookOpening.uri_eq {task : Task} {event : DocumentEvent} (hr : r.Reachable)
    (ht : r.tasks[t]? = some task) (hdoc : task.call.document? = some (event, file))
    (h : r.TookOpening t client uri) : Uri.ofPath? (r.resolve file) = some uri := by
  obtain ⟨h, language, version, text, hm, -⟩ := h
  exact (accepted_didOpen hr ht hdoc hm).1

theorem Fresh.count_openers {call : RegistryCall} {n : Nat} (hr : r.Fresh)
    (actions : List RegistryAction)
    (ht : (r.run actions).tasks[t]? = some ⟨call, .done (.ok (.count n))⟩)
    (hdoc : call.document? = some (.opened, file)) :
    ((r.run actions).openers t).length = n ∧ ((r.run actions).openers t).Nodup := by
  have hreach : (r.run actions).Reachable := hr.reachable.run actions
  have htally := (hr.tally t).run hr.reachable actions
  have hcounted : Counted _ _ _ _ _ := htally.present _ _ _ _ ht hdoc
  have hn : n = ((r.run actions).takers t).length := by
    have hc := hcounted.count _ rfl
    rw [hcounted.passed nofun] at hc
    exact RegistryReply.count.inj hc
  rw [openers_eq hreach ht hdoc, hn]
  constructor
  · exact List.filterMap_length_eq_length.2 fun e he => hreach.taker_id?_isSome he
  · exact hcounted.nodup.filterMap fun e e' client he he' => hreach.id?_injective he he'

end Registry
end Switchyard
