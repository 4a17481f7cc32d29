import Switchyard.Proofs.Diagnostic.Runs

namespace Switchyard

namespace HubCall

/-- The client whose slice of a document a use may change, if it is one client's. -/
def client? : HubCall → Option String
  | .upsert _ client _ _ => some client
  | .clear _ client => client
  | _ => none

def version? (uri : String) : HubCall → Option Int32
  | .upsert uri' _ _ version => if uri' = uri then version else none
  | .clear _ _ | .subscribe | .unsubscribe _ => none

theorem version?_of_ne {uri : String} {call : HubCall} (hu : call.uri? ≠ some uri) :
    call.version? uri = none := by
  cases call with
  | upsert uri' client items version => exact if_neg fun heq => hu (congrArg some heq)
  | _ => rfl

end HubCall

namespace Reporting

variable {uri client c : String} {items : List Diagnostic} {version : Option Int32}
  {call : HubCall} {past : List HubCall}

/-- What a client last reported on a document, if neither its slice nor the document has been
cleared since. -/
def slice? (uri client : String) : List HubCall → Option (List Diagnostic)
  | [] => none
  | .upsert uri' client' items _ :: past =>
    if uri' = uri ∧ client' = client then some items else slice? uri client past
  | .clear uri' client' :: past =>
    if uri' = uri ∧ (client' = none ∨ client' = some client) then none else slice? uri client past
  | .subscribe :: past | .unsubscribe _ :: past => slice? uri client past

/-- The client that a use is the first report of since it last had no slice. -/
def newcomer? (uri : String) (past : List HubCall) : HubCall → Option String
  | .upsert uri' client _ _ =>
    if uri' = uri ∧ (slice? uri client past).isNone then some client else none
  | .clear _ _ | .subscribe | .unsubscribe _ => none

/-- The clients that have a slice of a document, in the order in which they first reported on it
since they last had none. -/
def clients (uri : String) : List HubCall → List String
  | [] => []
  | call :: past =>
    (clients uri past).filter (fun c => (slice? uri c (call :: past)).isSome) ++
      (newcomer? uri past call).toList

/-- The version that was last given for a document since it last had no slice. -/
def version? (uri : String) : List HubCall → Option Int32
  | [] => none
  | call :: past =>
    if clients uri (call :: past) = [] then none else (call.version? uri).or (version? uri past)

def since (uri client : String) : List HubCall → Nat
  | [] => 0
  | _ :: past => if (slice? uri client past).isSome then since uri client past else past.length

def slices (uri : String) (past : List HubCall) : List (String × List Diagnostic) :=
  (clients uri past).map fun c => (c, (slice? uri c past).getD [])

def record? (uri : String) (past : List HubCall) : Option FileDiagnostics :=
  if clients uri past = [] then none
  else
    some ⟨uri, slices uri past, (slices uri past).flatMap (·.2), version? uri past⟩

theorem newcomer?_eq_some :
    newcomer? uri past call = some c ↔
      slice? uri c past = none ∧ ∃ items version, call = .upsert uri c items version := by
  cases call with
  | upsert uri' client items version =>
    simp only [newcomer?]
    split
    · rename_i hn
      obtain ⟨rfl, hn⟩ := hn
      constructor
      · rintro ⟨⟩
        exact ⟨Option.isNone_iff_eq_none.1 hn, items, version, rfl⟩
      · rintro ⟨_, _, _, ⟨⟩⟩
        rfl
    · rename_i hn
      constructor
      · exact nofun
      · rintro ⟨hs, _, _, ⟨⟩⟩
        exact absurd ⟨rfl, Option.isNone_iff_eq_none.2 hs⟩ hn
  | _ =>
    constructor
    · exact nofun
    · rintro ⟨_, _, _, ⟨⟩⟩

theorem slice?_cons_isSome (hn : slice? uri c past = none)
    (hs : (slice? uri c (call :: past)).isSome) : newcomer? uri past call = some c := by
  rw [newcomer?_eq_some]
  refine ⟨hn, ?_⟩
  cases call with
  | upsert uri' client' items version =>
    simp only [slice?] at hs
    split at hs
    · rename_i heq
      obtain ⟨rfl, rfl⟩ := heq
      exact ⟨items, version, rfl⟩
    · rw [hn] at hs
      cases hs
  | clear uri' client' =>
    simp only [slice?] at hs
    split at hs
    · cases hs
    · rw [hn] at hs
      cases hs
  | _ =>
    rw [slice?, hn] at hs
    cases hs

theorem mem_clients : c ∈ clients uri past ↔ (slice? uri c past).isSome := by
  induction past with
  | nil => simp [clients, slice?]
  | cons call past ih =>
    rw [clients, List.mem_append, List.mem_filter, Option.mem_toList, ih]
    constructor
    · rintro (⟨_, h⟩ | h)
      · exact h
      · obtain ⟨_, items, version, rfl⟩ := newcomer?_eq_some.1 h
        simp [slice?]
    · intro h
      cases hp : slice? uri c past with
      | none => exact .inr (slice?_cons_isSome hp h)
      | some items => exact .inl ⟨rfl, h⟩

theorem not_mem_clients : c ∉ clients uri past ↔ slice? uri c past = none := by
  rw [mem_clients, Option.not_isSome_iff_eq_none]

theorem since_lt (hs : (slice? uri c past).isSome) : since uri c past < past.length := by
  induction past with
  | nil => cases hs
  | cons call past ih =>
    rw [since, List.length_cons]
    split
    · rename_i h
      exact Nat.lt_succ_of_lt (ih h)
    · exact Nat.lt_succ_self _

theorem clients_pairwise (uri : String) (past : List HubCall) :
    (clients uri past).Pairwise fun c d => since uri c past < since uri d past := by
  induction past with
  | nil => exact .nil
  | cons call past ih =>
    have hold {c : String} (hc : c ∈ clients uri past) :
        since uri c (call :: past) = since uri c past := by
      rw [since, if_pos (mem_clients.1 hc)]
    refine List.pairwise_append.2 ⟨?_, ?_, ?_⟩
    · refine (ih.filter _).imp_of_mem ?_
      intro c d hc hd hlt
      rwa [hold (List.mem_filter.1 hc).1, hold (List.mem_filter.1 hd).1]
    · cases newcomer? uri past call <;> simp
    · intro c hc d hd
      obtain ⟨hn, _⟩ := newcomer?_eq_some.1 (Option.mem_toList.1 hd)
      have hd' : since uri d (call :: past) = past.length := by
        rw [since, if_neg (Option.not_isSome_iff_eq_none.2 hn)]
      rw [hold (List.mem_filter.1 hc).1, hd']
      exact since_lt (mem_clients.1 (List.mem_filter.1 hc).1)

theorem clients_nodup (uri : String) (past : List HubCall) : (clients uri past).Nodup := by
  refine (clients_pairwise uri past).imp ?_
  rintro c _ hlt rfl
  exact Nat.lt_irrefl _ hlt

theorem slice?_of_ne (hu : call.uri? ≠ some uri) :
    slice? uri c (call :: past) = slice? uri c past := by
  cases call with
  | upsert uri' client' items version =>
    have hne : uri' ≠ uri := fun heq => hu (congrArg some heq)
    rw [slice?, if_neg fun h => hne h.1]
  | clear uri' client' =>
    have hne : uri' ≠ uri := fun heq => hu (congrArg some heq)
    rw [slice?, if_neg fun h => hne h.1]
  | _ => rfl

theorem clients_of_ne (hu : call.uri? ≠ some uri) :
    clients uri (call :: past) = clients uri past := by
  have hnew : newcomer? uri past call = none := by
    refine Option.eq_none_iff_forall_ne_some.2 fun c hc => ?_
    obtain ⟨_, items, version, rfl⟩ := newcomer?_eq_some.1 hc
    exact hu rfl
  rw [clients, hnew, Option.toList_none, List.append_nil, List.filter_eq_self]
  intro c hc
  rw [slice?_of_ne hu]
  exact mem_clients.1 hc

theorem version?_of_clients (h : clients uri past = []) : version? uri past = none := by
  cases past with
  | nil => rfl
  | cons call past => rw [version?, if_pos h]

theorem version?_of_ne (hu : call.uri? ≠ some uri) :
    version? uri (call :: past) = version? uri past := by
  rw [version?, clients_of_ne hu, HubCall.version?_of_ne hu, Option.none_or]
  split
  · rename_i h
    exact (version?_of_clients h).symm
  · rfl

theorem record?_of_ne (hu : call.uri? ≠ some uri) :
    record? uri (call :: past) = record? uri past := by
  have hs : slices uri (call :: past) = slices uri past := by
    rw [slices, slices, clients_of_ne hu]
    exact List.map_congr_left fun c _ => by rw [slice?_of_ne hu]
  rw [record?, record?, hs, clients_of_ne hu, version?_of_ne hu]

theorem slice?_upsert_self : slice? uri client (.upsert uri client items version :: past) =
    some items := by
  rw [slice?, if_pos ⟨rfl, rfl⟩]

theorem slice?_upsert_of_ne (hne : c ≠ client) :
    slice? uri c (.upsert uri client items version :: past) = slice? uri c past := by
  rw [slice?, if_neg fun h => hne h.2.symm]

theorem slice?_clear_self : slice? uri client (.clear uri (some client) :: past) = none := by
  rw [slice?, if_pos ⟨rfl, .inr rfl⟩]

theorem slice?_clear_of_ne (hne : c ≠ client) :
    slice? uri c (.clear uri (some client) :: past) = slice? uri c past := by
  have hn : ¬ (uri = uri ∧ (some client = none ∨ some client = some c)) := by
    rintro ⟨_, h | h⟩
    · cases h
    · cases h
      exact hne rfl
  rw [slice?, if_neg hn]

theorem slice?_clear_none : slice? uri c (.clear uri none :: past) = none := by
  rw [slice?, if_pos ⟨rfl, .inl rfl⟩]

theorem clients_upsert : clients uri (.upsert uri client items version :: past) =
    if client ∈ clients uri past then clients uri past else clients uri past ++ [client] := by
  have hkept : (clients uri past).filter
      (fun c => (slice? uri c (.upsert uri client items version :: past)).isSome) =
        clients uri past := by
    refine List.filter_eq_self.2 fun c hc => ?_
    by_cases hne : c = client
    · subst hne
      rw [slice?_upsert_self]
      rfl
    · rw [slice?_upsert_of_ne hne]
      exact mem_clients.1 hc
  have hnew : newcomer? uri past (.upsert uri client items version) =
      if client ∈ clients uri past then none else some client := by
    rw [newcomer?]
    by_cases hc : client ∈ clients uri past
    · have hn (h : (slice? uri client past).isNone) : False :=
        not_mem_clients.2 (Option.isNone_iff_eq_none.1 h) hc
      rw [if_pos hc, if_neg fun h => hn h.2]
    · rw [if_neg hc, if_pos ⟨rfl, Option.isNone_iff_eq_none.2 (not_mem_clients.1 hc)⟩]
  rw [clients, hkept, hnew]
  split
  · exact List.append_nil _
  · rfl

theorem clients_clear_some : clients uri (.clear uri (some client) :: past) =
    (clients uri past).filter (· != client) := by
  rw [clients, newcomer?, Option.toList_none, List.append_nil]
  refine List.filter_congr fun c hc => ?_
  by_cases hne : c = client
  · subst hne
    rw [slice?_clear_self, bne_self_eq_false]
    rfl
  · rw [slice?_clear_of_ne hne, mem_clients.1 hc]
    exact (bne_iff_ne.2 hne).symm

theorem clients_clear_none : clients uri (.clear uri none :: past) = [] := by
  rw [clients, newcomer?, Option.toList_none, List.append_nil, List.filter_eq_nil_iff]
  intro c _
  rw [slice?_clear_none]
  exact Bool.false_ne_true

theorem lookup_slices : (slices uri past).lookup c = slice? uri c past := by
  have hl (l : List String) : (l.map fun c => (c, (slice? uri c past).getD [])).lookup c =
      if c ∈ l then some ((slice? uri c past).getD []) else none := by
    induction l with
    | nil => rfl
    | cons d l ih =>
      rw [List.map_cons, List.lookup_cons, ih]
      by_cases hd : c = d
      · subst hd
        simp
      · simp [hd, beq_false_of_ne hd]
  rw [slices, hl]
  split
  · rename_i hc
    obtain ⟨items, hi⟩ := Option.isSome_iff_exists.1 (mem_clients.1 hc)
    rw [hi]
    rfl
  · rename_i hc
    exact (not_mem_clients.1 hc).symm

/-- A slice that is set takes the place of the one that the client had, or comes last. -/
theorem setSlice_map {f : String → List Diagnostic} {l : List String} (hl : l.Nodup) :
    FileDiagnostics.setSlice client items (l.map fun c => (c, f c)) =
      (if client ∈ l then l else l ++ [client]).map fun c =>
        (c, if c = client then items else f c) := by
  induction l with
  | nil => simp [FileDiagnostics.setSlice]
  | cons d l ih =>
    obtain ⟨hd, hl⟩ := List.nodup_cons.1 hl
    rw [List.map_cons, FileDiagnostics.setSlice]
    by_cases hc : d = client
    · subst hc
      have hsame : ∀ c ∈ l, (c, f c) = (c, if c = d then items else f c) := by
        intro c hm
        rw [if_neg]
        rintro rfl
        exact hd hm
      simp [List.map_congr_left hsame]
    · rw [if_neg (by simpa using hc), ih hl]
      by_cases hm : client ∈ l
      · simp [hm, hc]
      · simp [hm, hc, Ne.symm hc]

theorem slices_upsert : slices uri (.upsert uri client items version :: past) =
    FileDiagnostics.setSlice client items (slices uri past) := by
  rw [slices, slices, setSlice_map (clients_nodup uri past), clients_upsert]
  refine List.map_congr_left fun c _ => ?_
  by_cases hc : c = client
  · subst hc
    rw [slice?_upsert_self, if_pos rfl]
    rfl
  · rw [slice?_upsert_of_ne hc, if_neg hc]

theorem slices_clear_some : slices uri (.clear uri (some client) :: past) =
    (slices uri past).filter (·.1 != client) := by
  rw [slices, slices, clients_clear_some, List.filter_map]
  refine List.map_congr_left fun c hc => ?_
  rw [slice?_clear_of_ne (bne_iff_ne.1 (List.mem_filter.1 hc).2)]

theorem record?_upsert : record? uri (.upsert uri client items version :: past) =
    some (((record? uri past).getD (.empty uri)).publish client items version) := by
  have hne : clients uri (.upsert uri client items version :: past) ≠ [] := by
    have hm : client ∈ clients uri (.upsert uri client items version :: past) := by
      rw [mem_clients, slice?_upsert_self]
      rfl
    exact List.ne_nil_of_mem hm
  have hv : version? uri (.upsert uri client items version :: past) =
      version.or (version? uri past) := by
    rw [version?, if_neg hne, HubCall.version?, if_pos rfl]
  rw [record?, if_neg hne, slices_upsert, hv, record?]
  split
  · rename_i h
    rw [slices, h, version?_of_clients h]
    rfl
  · rfl

theorem record?_clear_none : record? uri (.clear uri none :: past) = none := by
  rw [record?, if_pos clients_clear_none]

theorem record?_clear_some {file : FileDiagnostics} (hf : record? uri past = some file) :
    record? uri (.clear uri (some client) :: past) =
      if (file.removeClient client).slices.isEmpty then none
      else some (file.removeClient client) := by
  have hfile : file = ⟨uri, slices uri past, (slices uri past).flatMap (·.2),
      version? uri past⟩ := by
    rw [record?] at hf
    split at hf
    · cases hf
    · cases hf
      rfl
  have hs : (file.removeClient client).slices = slices uri (.clear uri (some client) :: past) := by
    rw [slices_clear_some, hfile]
    rfl
  have he : (file.removeClient client).slices.isEmpty ↔
      clients uri (.clear uri (some client) :: past) = [] := by
    rw [hs, List.isEmpty_iff, slices, List.map_eq_nil_iff]
  rw [record?]
  split
  · rename_i h
    rw [if_pos (he.2 h)]
  · rename_i h
    rw [if_neg fun h' => h (he.1 h'), ← hs, version?, if_neg h, HubCall.version?, Option.none_or,
      hfile]
    rfl

theorem record?_clear_absent (hc : slice? uri client past = none) :
    record? uri (.clear uri (some client) :: past) = record? uri past := by
  have hclients : clients uri (.clear uri (some client) :: past) = clients uri past := by
    rw [clients_clear_some, List.filter_eq_self]
    rintro c hm
    refine bne_iff_ne.2 ?_
    rintro rfl
    exact not_mem_clients.2 hc hm
  have hslices : slices uri (.clear uri (some client) :: past) = slices uri past := by
    rw [slices, slices, hclients]
    refine List.map_congr_left fun c hm => ?_
    rw [slice?_clear_of_ne]
    rintro rfl
    exact not_mem_clients.2 hc hm
  rw [record?, record?, hclients, hslices]
  split
  · rfl
  · rename_i h
    rw [version?, hclients, if_neg h, HubCall.version?, Option.none_or]

theorem keys_slices (uri : String) (past : List HubCall) :
    (slices uri past).map (·.1) = clients uri past := by
  rw [slices, List.map_map]
  exact List.map_id _

theorem record?_fits {file : FileDiagnostics} (hf : record? uri past = some file) :
    file.uri = uri ∧ file.slices ≠ [] ∧ (file.slices.map (·.1)).Nodup ∧
      (file.slices.map (·.1)).Pairwise (fun c d => since uri c past < since uri d past) ∧
      file.version = version? uri past ∧ file.all = file.slices.flatMap (·.2) := by
  rw [record?] at hf
  split at hf
  · cases hf
  · rename_i hne
    cases hf
    refine ⟨rfl, fun h => hne (List.map_eq_nil_iff.1 h), ?_, ?_, rfl, rfl⟩
    · rw [keys_slices]
      exact clients_nodup uri past
    · rw [keys_slices]
      exact clients_pairwise uri past

theorem forClient?_record? : (record? uri past).bind (·.forClient? c) = slice? uri c past := by
  rw [record?]
  split
  · rename_i h
    refine (not_mem_clients.1 ?_).symm
    rw [h]
    exact List.not_mem_nil
  · exact lookup_slices

end Reporting

namespace HubStep

def call? : HubStep → Option HubCall
  | .use call => some call
  | .tell | .fail => none

end HubStep

def uses (steps : List HubStep) : List HubCall := (steps.filterMap HubStep.call?).reverse

namespace DiagnosticsStore

def slices (s : DiagnosticsStore) (uri : String) : List (String × List Diagnostic) :=
  ((s.get? uri).map (·.slices)).getD []

end DiagnosticsStore

namespace DiagnosticsHub

variable {h : DiagnosticsHub} {past : List HubCall}

theorem get?_call (hs : ∀ uri, h.store.get? uri = Reporting.record? uri past) (call : HubCall)
    (uri : String) : (h.call call).store.get? uri = Reporting.record? uri (call :: past) := by
  by_cases hu : call.uri? = some uri
  · cases call with
    | upsert uri' client items version =>
      cases hu
      rw [store_upsert, DiagnosticsStore.get?_upsert, hs, Reporting.record?_upsert]
    | clear uri' client =>
      cases hu
      cases client with
      | none => rw [store_clear, DiagnosticsStore.get?_clear_none, Reporting.record?_clear_none]
      | some client =>
        rw [store_clear]
        cases hc : Reporting.slice? uri client past with
        | none =>
          have habsent : (h.store.get? uri).bind (·.forClient? client) = none := by
            rw [hs, Reporting.forClient?_record?, hc]
          rw [DiagnosticsStore.clear_absent habsent, Reporting.record?_clear_absent hc, hs]
        | some items =>
          rw [← Reporting.forClient?_record?] at hc
          obtain ⟨file, hf, hslice⟩ := Option.bind_eq_some_iff.1 hc
          rw [Reporting.record?_clear_some hf]
          exact DiagnosticsStore.get?_clear_some ((hs uri).trans hf)
            (Option.isSome_iff_exists.2 ⟨items, hslice⟩)
    | _ => cases hu
  · rw [get?_call_of_ne hu, Reporting.record?_of_ne hu, hs]

theorem get?_run (steps : List HubStep) (uri : String) :
    (empty.run steps).store.get? uri = Reporting.record? uri (uses steps) := by
  refine run_induction
    (p := fun steps h => ∀ uri, h.store.get? uri = Reporting.record? uri (uses steps))
    ?_ ?_ steps uri
  · intro uri
    rfl
  · intro steps step ih uri
    have huses : uses (steps ++ [step]) = step.call?.toList ++ uses steps := by
      cases step <;> simp [uses, HubStep.call?]
    rw [huses]
    cases step with
    | use call => exact get?_call ih call uri
    | tell | fail => exact (congrArg (·.get? uri) (store_tell _)).trans (ih uri)

theorem slices_run (steps : List HubStep) (uri : String) :
    (empty.run steps).store.slices uri = Reporting.slices uri (uses steps) := by
  rw [DiagnosticsStore.slices, get?_run, Reporting.record?]
  split
  · rename_i h
    rw [Reporting.slices, h]
    rfl
  · rfl

theorem get?_eq_none_iff (steps : List HubStep) (uri : String) :
    (empty.run steps).store.get? uri = none ↔ (empty.run steps).store.slices uri = [] := by
  rw [get?_run, slices_run, Reporting.slices, List.map_eq_nil_iff, Reporting.record?]
  split <;> simp [*]

theorem slices_call (steps : List HubStep) (call : HubCall) (uri : String) :
    ((empty.run steps).call call).store.slices uri =
      Reporting.slices uri (call :: uses steps) := by
  have hrun : (empty.run steps).call call = empty.run (steps ++ [.use call]) :=
    (run_append empty steps [.use call]).symm
  rw [hrun, slices_run, uses, uses, List.filterMap_append, List.reverse_append]
  rfl

/-- A use that concerns one client's slice leaves the slices of the others as they are, in their
order. -/
theorem slices_of_ne {steps : List HubStep} {call : HubCall} {uri client : String}
    (hu : call.uri? = some uri) (hc : call.client? = some client) :
    (((empty.run steps).call call).store.slices uri).filter (·.1 != client) =
      ((empty.run steps).store.slices uri).filter (·.1 != client) := by
  rw [slices_call, slices_run]
  cases call with
  | upsert uri' client' items version =>
    cases hu
    cases hc
    rw [Reporting.slices_upsert, FileDiagnostics.filter_setSlice]
  | clear uri' client' =>
    cases hu
    cases hc
    rw [Reporting.slices_clear_some, List.filter_filter]
    simp only [Bool.and_self]
  | _ => cases hu

theorem clients_prefix (steps : List HubStep) (uri client : String) (items : List Diagnostic)
    (version : Option Int32) :
    ((empty.run steps).store.slices uri).map (·.1) <+:
      (((empty.run steps).call (.upsert uri client items version)).store.slices uri).map (·.1) := by
  rw [slices_call, slices_run, Reporting.keys_slices, Reporting.keys_slices,
    Reporting.clients_upsert]
  split
  · exact List.prefix_rfl
  · exact List.prefix_append _ _

theorem version_upsert_none (h : DiagnosticsHub) (uri client : String) (items : List Diagnostic) :
    ((h.call (.upsert uri client items none)).store.get? uri).bind (·.version) =
      (h.store.get? uri).bind (·.version) := by
  rw [store_upsert, DiagnosticsStore.get?_upsert]
  cases h.store.get? uri <;> rfl

/-- The store has just what has been reported. Its record of a document has a slice for each client
that reported on it and has not been cleared since, with its last report, in the order in which the
clients came in, and the last version since there was a record; no other document and no other
client's slice is touched by a use, and a report without a version leaves the version. Each record
is that of its own document, has at least one slice and none twice, and all diagnostics of its
slices in order. -/
theorem store_reported (steps : List HubStep) :
    (∀ uri, (empty.run steps).store.get? uri = Reporting.record? uri (uses steps)) ∧
    (∀ uri client, ((empty.run steps).store.get? uri).bind (·.forClient? client) =
      Reporting.slice? uri client (uses steps)) ∧
    (∀ call uri, call.uri? ≠ some uri →
      ((empty.run steps).call call).store.get? uri = (empty.run steps).store.get? uri) ∧
    (∀ call uri client, call.uri? = some uri → call.client? = some client →
      (((empty.run steps).call call).store.slices uri).filter (·.1 != client) =
        ((empty.run steps).store.slices uri).filter (·.1 != client)) ∧
    (∀ uri client items version,
      ((empty.run steps).store.slices uri).map (·.1) <+:
        (((empty.run steps).call (.upsert uri client items version)).store.slices uri).map
          (·.1)) ∧
    (∀ uri client items,
      (((empty.run steps).call (.upsert uri client items none)).store.get? uri).bind (·.version) =
        ((empty.run steps).store.get? uri).bind (·.version)) ∧
    ∀ uri file, (empty.run steps).store.get? uri = some file →
      file.uri = uri ∧ file.slices ≠ [] ∧ (file.slices.map (·.1)).Nodup ∧
        (file.slices.map (·.1)).Pairwise (fun c d =>
          Reporting.since uri c (uses steps) < Reporting.since uri d (uses steps)) ∧
        file.version = Reporting.version? uri (uses steps) ∧
        file.all = file.slices.flatMap (·.2) := by
  refine ⟨get?_run steps, ?_, ?_, ?_, clients_prefix steps, version_upsert_none _, ?_⟩
  · intro uri client
    rw [get?_run, Reporting.forClient?_record?]
  · intro call uri hu
    exact get?_call_of_ne hu
  · intro call uri client hu hc
    exact slices_of_ne hu hc
  · intro uri file hf
    rw [get?_run] at hf
    exact Reporting.record?_fits hf

/-- A client that was cleared comes in again behind the other, and the version stays. -/
theorem store_reported_again :
    let steps := [.use (.upsert "u" "a" [default] (some 3)), .use (.upsert "u" "b" [] none), .tell,
      .use (.clear "u" (some "a")), .use (.upsert "u" "a" [] none)]
    let h := empty.run steps
    h.store.get? "u" = some ⟨"u", [("b", []), ("a", [])], [], some 3⟩ ∧
      (h.store.get? "u").bind (·.forClient? "b") = some [] ∧
      (h.call (.clear "u" none)).store.get? "v" = h.store.get? "v" ∧
      ((h.call (.clear "u" (some "a"))).store.slices "u").filter (·.1 != "a") =
        (h.store.slices "u").filter (·.1 != "a") ∧
      (["b", "a"].Pairwise fun c d =>
        Reporting.since "u" c (uses steps) < Reporting.since "u" d (uses steps)) := by
  intro steps h
  obtain ⟨hget, hslice, hother, hclient, _, _, hfits⟩ := store_reported steps
  have hrecord : h.store.get? "u" = some ⟨"u", [("b", []), ("a", [])], [], some 3⟩ :=
    (hget "u").trans rfl
  obtain ⟨_, _, _, hsince, _, _⟩ := hfits "u" _ hrecord
  exact ⟨hrecord, (hslice "u" "b").trans rfl, hother _ _ (by decide),
    hclient _ "u" "a" rfl rfl, hsince⟩

end DiagnosticsHub
end Switchyard
