import Switchyard.Proofs.Diagnostic.Store
import Switchyard.Proofs.Registry.Reports
import Switchyard.Proofs.Uri.RoundTrip

namespace Switchyard

namespace Rpc.PublishDiagnostics

def items (params : Option Json) : List Json :=
  match params.bind (·.fields? fieldNames) with
  | some [_, _, diagnostics] => (Json.defaulted? [] Json.arr? diagnostics).getD []
  | _ => []

/-- A report that is taken has all of its well-formed diagnostics, in order. -/
theorem diagnostics_eq {params : Option Json} {p : PublishDiagnostics}
    (h : ofParams? params = some p) :
    p.diagnostics = (items params).filterMap Diagnostic.ofJson? := by
  unfold ofParams? at h
  rw [← Option.bind_assoc] at h
  unfold items
  obtain ⟨fields, hf, h⟩ := Option.bind_eq_some_iff.1 h
  rw [hf]
  unfold ofFields? at h
  split at h
  · rename_i uri version diagnostics
    simp only [Option.bind_eq_bind, Option.bind_eq_some_iff] at h
    obtain ⟨uri?, _, version?, _, items, hi, h⟩ := h
    dsimp only
    rw [hi]
    cases uri? with
    | none => cases h
    | some uri =>
      dsimp only at h
      split at h
      · cases h
      · cases h
        rfl
  · cases h

end Rpc.PublishDiagnostics

def RegistryAction.reported? : RegistryAction → Option String
  | .notify _ method params =>
    if method == Rpc.publishDiagnostics then
      (Rpc.PublishDiagnostics.ofParams? params).map (Uri.canonical ·.uri)
    else none
  | .hub use => use.uri?
  | _ => none

namespace Registry

variable {r : Registry} {h : Nat} {uri : String}

def client? (r : Registry) (h : Nat) : Option String := do
  let handle ← r.handles[h]?
  let entry ← r.entries[handle.entry]?
  return entry.config.id

def readsAsUri (target : String) : Bool :=
  "file:".toList.isPrefixOf target.toList || hasScheme target.toList

theorem key?_path {target : String} (h : readsAsUri target = false) :
    r.key? target = Uri.ofPath? (r.resolve (.ofString target)) := by
  obtain ⟨hf, hs⟩ := Bool.or_eq_false_iff.1 h
  rw [key?, hf, hs]
  rfl

theorem key?_run (r : Registry) (actions : List RegistryAction) (target : String) :
    (r.run actions).key? target = r.key? target := by
  have hroot : (r.run actions).root = r.root := (servers_run r actions).before.root
  rw [key?, key?, resolve, resolve, hroot]

theorem receive_cases (r : Registry) (h : Nat) (method : String) (params : Option Json) :
    r.receive h method params = r ∨ ∃ client p, method = Rpc.publishDiagnostics ∧
      Rpc.PublishDiagnostics.ofParams? params = some p ∧
      r.receive h method params = r.publish client p := by
  unfold receive
  split
  · exact .inl rfl
  split
  · exact .inl rfl
  rename_i entry _
  split
  · rename_i hm
    obtain ⟨_, hm⟩ := Bool.and_eq_true_iff.1 hm
    split
    · rename_i p hp
      exact .inr ⟨entry.config.id, p, beq_iff_eq.1 hm, hp, rfl⟩
    · exact .inl rfl
  · exact .inl rfl

/-- An action leaves the records of the documents alone that it does not report on. -/
theorem get?_step {action : RegistryAction} (hu : action.reported? ≠ some uri) :
    (r.step action).hub.store.get? uri = r.hub.store.get? uri := by
  obtain heq | ⟨_, _, _, _, heq⟩ | ⟨h, method, params, rfl⟩ | ⟨call, rfl⟩ := traffic_step r action
  · have hhub : (r.step action).hub = r.hub := congrArg Prod.fst heq
    rw [hhub]
  · have hhub : (r.step action).hub = r.hub := congrArg Prod.fst heq
    rw [hhub]
  · obtain heq | ⟨client, p, rfl, hp, heq⟩ := receive_cases r h method params
    · rw [step, heq]
    · rw [step, heq]
      refine DiagnosticsHub.get?_use_of_ne ?_
      simpa [RegistryAction.reported?, hp, HubCall.uri?] using hu
  · exact DiagnosticsHub.get?_use_of_ne hu

theorem get?_run {actions : List RegistryAction}
    (hu : ∀ action ∈ actions, action.reported? ≠ some uri) :
    (r.run actions).hub.store.get? uri = r.hub.store.get? uri := by
  induction actions generalizing r with
  | nil => rfl
  | cons action rest ih =>
    obtain ⟨ha, hrest⟩ := List.forall_mem_cons.1 hu
    exact (ih hrest).trans (get?_step ha)

theorem diagnostics?_key {target : String} (hk : r.key? target = some uri) :
    r.diagnostics? target = r.hub.store.get? uri := by
  rw [diagnostics?, hk]
  rfl

/-- What is found for a path or URI stays until the next report on its document. -/
theorem diagnostics?_run {target : String} {actions : List RegistryAction}
    (hk : r.key? target = some uri) (hu : ∀ action ∈ actions, action.reported? ≠ some uri) :
    (r.run actions).diagnostics? target = r.diagnostics? target := by
  have hk' : (r.run actions).key? target = some uri := (key?_run r actions target).trans hk
  rw [diagnostics?_key hk', diagnostics?_key hk, get?_run hu]

theorem Reachable.receive_publish {e : Nat} {params : Option Json} {p : Rpc.PublishDiagnostics}
    (hr : r.Reachable) (hs : r.Serves e h) (hp : Rpc.PublishDiagnostics.ofParams? params = some p) :
    ∃ client, r.client? h = some client ∧
      r.receive h Rpc.publishDiagnostics params = r.publish client p := by
  obtain ⟨handle, hh, _, hattended⟩ := hs
  obtain ⟨slot, hslot, _⟩ := hr.sound.handle hh
  simp only [servers, List.getElem?_map] at hslot
  obtain ⟨entry, he, _⟩ := Option.map_eq_some_iff.1 hslot
  refine ⟨entry.config.id, ?_, ?_⟩
  · simp [client?, hh, he]
  · simp [receive, hh, he, hattended, hp]

theorem get?_publish (r : Registry) (client : String) (p : Rpc.PublishDiagnostics) :
    (r.publish client p).hub.store.get? (Uri.canonical p.uri) =
      some (((r.hub.store.get? (Uri.canonical p.uri)).getD (.empty (Uri.canonical p.uri))).publish
        client p.diagnostics (p.version.or (r.versions.lookup (Uri.canonical p.uri)))) := by
  rw [publish, DiagnosticsHub.store_use]
  exact DiagnosticsStore.get?_upsert _ _ _ _ _

theorem Reachable.diagnostics?_notify {e : Nat} {target : String} {params : Option Json}
    {p : Rpc.PublishDiagnostics} (hr : r.Reachable) (hs : r.Serves e h)
    (hp : Rpc.PublishDiagnostics.ofParams? params = some p)
    (hk : r.key? target = some (Uri.canonical p.uri)) :
    ∃ client record, r.client? h = some client ∧
      (r.step (.notify h Rpc.publishDiagnostics params)).diagnostics? target = some record ∧
      record.forClient? client = some p.diagnostics ∧
      record.version = (p.version.or (r.versions.lookup (Uri.canonical p.uri))).or
        ((r.diagnostics? target).bind (·.version)) := by
  obtain ⟨client, hclient, hreceive⟩ := hr.receive_publish hs hp
  have hstep : r.step (.notify h Rpc.publishDiagnostics params) = r.publish client p := hreceive
  have hk' : (r.publish client p).key? target = some (Uri.canonical p.uri) := hk
  rw [hstep, diagnostics?_key hk', diagnostics?_key hk]
  refine ⟨client, _, hclient, get?_publish r client p, ?_, ?_⟩
  · exact FileDiagnostics.forClient?_publish _ client p.diagnostics _
  · rw [FileDiagnostics.publish]
    cases r.hub.store.get? (Uri.canonical p.uri) <;> rfl

/-- A report on a document is found under the path that was opened, until the next report on it. It
has the well-formed diagnostics that came, and the version that came, else the one that was last
sent, else the one of the record before. -/
theorem published_found {t : Nat} {task : Task} {event : DocumentEvent}
    {target language text : String} {version : Int32} {params : Option Json}
    {p : Rpc.PublishDiagnostics} {more : List RegistryAction} (hr : r.Reachable)
    (ht : r.tasks[t]? = some task) (hc : task.call.document? = some (event, .ofString target))
    (hm : .accepted t h (.didOpen uri language version text) ∈ r.history)
    (htarget : readsAsUri target = false) (hup : .up ∉ (r.resolve (.ofString target)).components)
    (hp : Rpc.PublishDiagnostics.ofParams? params = some p) (hu : p.uri = uri)
    (hmore : ∀ action ∈ more, action.reported? ≠ some uri) :
    ∃ client record, r.client? h = some client ∧
      ((r.step (.notify h Rpc.publishDiagnostics params)).run more).diagnostics? target =
        some record ∧
      record.forClient? client =
        some ((Rpc.PublishDiagnostics.items params).filterMap Diagnostic.ofJson?) ∧
      record.version = (p.version.or (r.version? (.ofString target))).or
        ((r.diagnostics? target).bind (·.version)) := by
  obtain ⟨huri, e, hserves⟩ := accepted_didOpen hr ht hc hm
  -- The three keys are one: that of the report, that of the look-up and that of the version.
  have hcanonical : Uri.canonical p.uri = uri := by
    rw [hu]
    exact Uri.canonical_ofPath? huri hup
  have hkey : r.key? target = some uri := (key?_path htarget).trans huri
  have hversion : r.version? (.ofString target) = r.versions.lookup uri := by
    rw [version?, huri]
    rfl
  obtain ⟨client, record, hclient, hfound, hslice, hv⟩ :=
    hr.diagnostics?_notify hserves hp (hcanonical ▸ hkey)
  have hkey' : (r.step (.notify h Rpc.publishDiagnostics params)).key? target = some uri :=
    (key?_run r [.notify h Rpc.publishDiagnostics params] target).trans hkey
  refine ⟨client, record, hclient, (diagnostics?_run hkey' hmore).trans hfound, ?_, ?_⟩
  · rw [hslice, Rpc.PublishDiagnostics.diagnostics_eq hp]
  · rw [hv, hcanonical, hversion]

/-- A registry below `/w` of one server, which wants every document, once it has been sent one. -/
def oneOpened (target : String) : Registry :=
  (ofConfigs (.ofString "/w") [⟨"ts", "", "tsserver", [], [.conditions none none none]⟩] none
    (fun _ => true) 1000).run
      [.call (.document .opened (.ofString target)), .resume 0, .read 0 (.ok ""), .deliver 0 0,
        .spawned 0 (.running false), .deliver 0 0, .sent 0 0 true]

theorem reachable_oneOpened (target : String) : (oneOpened target).Reachable :=
  ⟨_, _, _, _, _, _, rfl⟩

/-- A report of the server on one diagnostic and on something else. -/
def oneReport (uri : String) : Option Json :=
  some (.obj [("uri", .str uri), ("diagnostics", .arr
    [.arr [.str "m", .arr [.arr [.nat 0, .nat 0], .arr [.nat 0, .nat 1]]], .null])])

theorem ofParams?_oneReport {uri : String} (h : uri.isEmpty = false) :
    Rpc.PublishDiagnostics.ofParams? (oneReport uri) =
      some ⟨uri, none, [⟨"m", ⟨⟨0, 0⟩, ⟨0, 1⟩⟩, none, none, none⟩]⟩ := by
  have hitems : [Json.arr [.str "m", .arr [.arr [.nat 0, .nat 0], .arr [.nat 0, .nat 1]]],
      .null].filterMap Diagnostic.ofJson? =
      [⟨"m", ⟨⟨0, 0⟩, ⟨0, 1⟩⟩, none, none, none⟩] := rfl
  have hfields : Rpc.PublishDiagnostics.ofParams? (oneReport uri) =
      if uri.isEmpty then none else some ⟨uri, none, _⟩ := rfl
  rw [hfields, h, hitems]
  rfl

theorem published_found_opened :
    ∃ record, ((oneOpened "a.ts").step
        (.notify 0 Rpc.publishDiagnostics (oneReport "file:///w/a.ts"))).diagnostics? "a.ts" =
        some record ∧
      record.forClient? "ts" = some [⟨"m", ⟨⟨0, 0⟩, ⟨0, 1⟩⟩, none, none, none⟩] ∧
      record.version = some 1 := by
  have hr : (oneOpened "a.ts").Reachable := reachable_oneOpened "a.ts"
  have hm : .accepted 0 0 (.didOpen "file:///w/a.ts" "typescript" 1 "") ∈
      (oneOpened "a.ts").history := .head _
  have hmore : ∀ action ∈ ([] : List RegistryAction),
      action.reported? ≠ some "file:///w/a.ts" := nofun
  have hclient : (oneOpened "a.ts").client? 0 = some "ts" := rfl
  obtain ⟨client, record, hc, hd, hs, hv⟩ :=
    published_found hr rfl rfl hm (by decide) (by decide) (ofParams?_oneReport rfl) rfl hmore
  cases hclient.symm.trans hc
  exact ⟨record, hd, hs, hv⟩

def oneReported : Registry :=
  (oneOpened "a.ts").step (.notify 0 Rpc.publishDiagnostics (oneReport "file:///w/a.ts"))

def oneClosed : Registry :=
  oneReported.run
    [.call (.document .closed (.ofString "a.ts")), .resume 1, .deliver 1 0, .sent 1 0 true]

theorem key?_oneReported : oneReported.key? "a.ts" = some "file:///w/a.ts" := by
  decide

theorem canonical_oneReport : Uri.canonical "file:///w/a.ts" = "file:///w/a.ts" := by
  decide

theorem version_oneReported : (oneReported.diagnostics? "a.ts").bind (·.version) = some 1 := by
  have hs : (oneOpened "a.ts").Serves 0 0 := ⟨⟨0, 1, true, false⟩, rfl, rfl, rfl⟩
  have hk : (oneOpened "a.ts").key? "a.ts" = some (Uri.canonical "file:///w/a.ts") := by
    rw [canonical_oneReport]
    exact key?_oneReported
  obtain ⟨_, record, _, hd, _, hv⟩ :=
    (reachable_oneOpened "a.ts").diagnostics?_notify hs (ofParams?_oneReport rfl) hk
  rw [oneReported, hd]
  exact hv

theorem version_oneClosed :
    ((oneClosed.step (.notify 0 Rpc.publishDiagnostics
      (oneReport "file:///w/a.ts"))).diagnostics? "a.ts").bind (·.version) = some 1 := by
  have hr : oneClosed.Reachable := ((reachable_oneOpened "a.ts").step _).run _
  have hs : oneClosed.Serves 0 0 := ⟨⟨0, 1, true, false⟩, rfl, rfl, rfl⟩
  have hk : oneClosed.key? "a.ts" = some (Uri.canonical "file:///w/a.ts") := by
    rw [canonical_oneReport, ← key?_oneReported]
    exact key?_run oneReported _ "a.ts"
  have hclosed : oneClosed.diagnostics? "a.ts" = oneReported.diagnostics? "a.ts" :=
    diagnostics?_run key?_oneReported (by simp [RegistryAction.reported?])
  obtain ⟨_, record, _, hd, _, hv⟩ := hr.diagnostics?_notify hs (ofParams?_oneReport rfl) hk
  rw [hd]
  apply hv.trans
  rw [hclosed, version_oneReported, canonical_oneReport]
  rfl

/-- Reports that are not found, or not as they came. A path that reads as a URI is looked up as one;
a report without a version on a document that is closed leaves the last version; and the URI of a
path that goes up is sent as it stands, which is not its canonical spelling. -/
theorem published_missed :
    ((∃ language, .accepted 0 0 (.didOpen "file:///w/file:a.ts" language 1 "") ∈
        (oneOpened "file:a.ts").history) ∧
      (Rpc.PublishDiagnostics.ofParams? (oneReport "file:///w/file:a.ts")).isSome ∧
      ((oneOpened "file:a.ts").step (.notify 0 Rpc.publishDiagnostics
        (oneReport "file:///w/file:a.ts"))).diagnostics? "file:a.ts" = none) ∧
    ((∃ language, .accepted 0 0 (.didOpen "file:///w/a.ts" language 1 "") ∈ oneClosed.history) ∧
      Rpc.PublishDiagnostics.ofParams? (oneReport "file:///w/a.ts") =
        some ⟨"file:///w/a.ts", none, [⟨"m", ⟨⟨0, 0⟩, ⟨0, 1⟩⟩, none, none, none⟩]⟩ ∧
      oneClosed.version? (.ofString "a.ts") = none ∧
      ((oneClosed.step (.notify 0 Rpc.publishDiagnostics
        (oneReport "file:///w/a.ts"))).diagnostics? "a.ts").bind (·.version) = some 1) ∧
    ((∃ language, .accepted 0 0 (.didOpen "file:///w/b/../a.ts" language 1 "") ∈
        (oneOpened "b/../a.ts").history) ∧
      (Rpc.PublishDiagnostics.ofParams? (oneReport "file:///w/b/../a.ts")).isSome ∧
      ((oneOpened "b/../a.ts").step (.notify 0 Rpc.publishDiagnostics
        (oneReport "file:///w/b/../a.ts"))).diagnostics? "b/../a.ts" = none) := by
  refine ⟨⟨⟨_, .head _⟩, ?_, ?_⟩, ⟨⟨_, .tail _ (.head _)⟩, ?_, rfl, ?_⟩, ⟨⟨_, .head _⟩, ?_, ?_⟩⟩
  · rw [ofParams?_oneReport rfl]
    rfl
  · have hk : (oneOpened "file:a.ts").key? "file:a.ts" = some "file:///a.ts" := by decide
    have hu : ∀ action ∈ [RegistryAction.notify 0 Rpc.publishDiagnostics
        (oneReport "file:///w/file:a.ts")], action.reported? ≠ some "file:///a.ts" := by
      decide
    have hnone : (oneOpened "file:a.ts").diagnostics? "file:a.ts" = none := by decide
    exact (diagnostics?_run hk hu).trans hnone
  · exact ofParams?_oneReport rfl
  · exact version_oneClosed
  · rw [ofParams?_oneReport rfl]
    rfl
  · have hk : (oneOpened "b/../a.ts").key? "b/../a.ts" = some "file:///w/b/../a.ts" := by decide
    have hu : ∀ action ∈ [RegistryAction.notify 0 Rpc.publishDiagnostics
        (oneReport "file:///w/b/../a.ts")], action.reported? ≠ some "file:///w/b/../a.ts" := by
      decide
    have hnone : (oneOpened "b/../a.ts").diagnostics? "b/../a.ts" = none := by decide
    exact (diagnostics?_run hk hu).trans hnone

end Registry
end Switchyard
