import Switchyard.Command.Program
import Switchyard.Proofs.Command.Sessions
import Switchyard.Proofs.Registry.Slices

namespace Switchyard

/-- Of two lists without repetition, the one that is no longer has no more elements of its own. -/
theorem length_le_iff_of_nodup {l l' : List String} (hl : l.Nodup) (hl' : l'.Nodup) :
    l.length ≤ l'.length ↔ (l.filter (· ∉ l')).length ≤ (l'.filter (· ∉ l)).length := by
  have hcommon : (l.filter (· ∈ l')).length = (l'.filter (· ∈ l)).length := by
    apply List.Perm.length_eq
    rw [List.perm_ext_iff_of_nodup (hl.filter _) (hl'.filter _)]
    intro x
    simp only [List.mem_filter, decide_eq_true_eq, and_comm]
  have hsplit := List.length_eq_length_filter_add (l := l) (decide <| · ∈ l')
  have hsplit' := List.length_eq_length_filter_add (l := l') (decide <| · ∈ l)
  simp only [decide_not]
  omega

namespace Program

variable {r r₀ : Registry} {t : Nat} {file : OpenedFile} {files : List OpenedFile}
  {record : FileDiagnostics} {actions : List RegistryAction}

/-- A task has opened a file, and some servers took it. -/
structure OpenedFile.By (file : OpenedFile) (r : Registry) (t : Nat) : Prop where
  taken : 0 < file.servers
  ended : r.tasks[t]? =
    some ⟨.watched .opened file.path, .done (.ok (.count file.servers))⟩

/-- The clients that took the opening of a file and have no slice in a record. -/
def lacking (r : Registry) (t : Nat) (record : FileDiagnostics) : List String :=
  (r.openers t).filter (· ∉ record.clients)

/-- The clients with a slice in a record that did not take the opening of the file. -/
def strangers (r : Registry) (t : Nat) (record : FileDiagnostics) : List String :=
  record.clients.filter (· ∉ r.openers t)

theorem allReported_iff :
    allReported r files = true ↔ ∀ file ∈ files, ∃ record, diagnosticsOf r file = some record ∧
      file.servers ≤ record.clientCount := by
  rw [allReported, List.all_eq_true]
  refine forall₂_congr fun file _ => ?_
  rw [Option.any_eq_true]
  simp only [decide_eq_true_eq]

theorem clients_nodup_of_found (hr : r.Reachable) (hf : diagnosticsOf r file = some record) :
    record.clients.Nodup := by
  obtain ⟨uri, -, hget⟩ := Option.bind_eq_some_iff.1 hf
  exact hr.clients_nodup hget

/-- A record has enough clients just if the strangers in it are not fewer than those it lacks. -/
theorem OpenedFile.By.enough_iff (hr : r₀.Fresh) (h : file.By (r₀.run actions) t)
    (hf : diagnosticsOf (r₀.run actions) file = some record) :
    file.servers ≤ record.clientCount ↔
      (lacking (r₀.run actions) t record).length ≤
        (strangers (r₀.run actions) t record).length := by
  obtain ⟨hlength, hnodup⟩ := hr.count_openers actions h.ended rfl
  have hclients := clients_nodup_of_found (hr.reachable.run actions) hf
  rw [← hlength, ← record.length_clients]
  exact length_le_iff_of_nodup hnodup hclients

theorem lacking_eq_nil_iff :
    lacking r t record = [] ↔ ∀ client ∈ r.openers t, (record.forClient? client).isSome := by
  rw [lacking, List.filter_eq_nil_iff]
  refine forall₂_congr fun client _ => ?_
  rw [decide_eq_true_eq, not_not, FileDiagnostics.mem_clients]

theorem OpenedFile.By.run (h : file.By r t) (more : List RegistryAction) : file.By (r.run more) t :=
  ⟨h.taken, Registry.done_run h.ended rfl more⟩

/-- The reports on a file are looked for where they are kept: its path stays what it is when it is
shown, reads as a path, and does not go up. -/
structure OpenedFile.Plain (file : OpenedFile) (r : Registry) : Prop where
  shown : .ofString file.path.display = file.path
  named : Registry.readsAsUri file.path.display = false
  down : .up ∉ (r.resolve file.path).components

theorem OpenedFile.Plain.diagnosticsOf_eq {uri : String} (h : file.Plain r)
    (huri : Uri.ofPath? (r.resolve file.path) = some uri) :
    diagnosticsOf r file = r.hub.store.get? (Uri.canonical uri) := by
  have hkey : r.key? file.path.display = some uri := by
    rw [Registry.key?_path h.named, h.shown, huri]
  rw [Uri.canonical_ofPath? huri h.down]
  exact Registry.diagnostics?_key hkey

theorem OpenedFile.Plain.run (h : file.Plain r) (actions : List RegistryAction) :
    file.Plain (r.run actions) := by
  refine ⟨h.shown, h.named, ?_⟩
  rw [Registry.resolve_run]
  exact h.down

/-- Once all servers that took a file have reported on it, the record has a slice of each. -/
theorem OpenedFile.By.found (hr : r₀.Fresh) (h : file.By (r₀.run actions) t)
    (hplain : file.Plain (r₀.run actions))
    (hpublished : ∀ client uri, (r₀.run actions).TookOpening t client uri →
      r₀.Publishes actions client uri) :
    ∃ record, diagnosticsOf (r₀.run actions) file = some record ∧
      lacking (r₀.run actions) t record = [] := by
  have hreach : (r₀.run actions).Reachable := hr.reachable.run actions
  obtain ⟨hlength, -⟩ := hr.count_openers actions h.ended rfl
  have hslice : ∀ client ∈ (r₀.run actions).openers t, ∃ record items,
      diagnosticsOf (r₀.run actions) file = some record ∧
        record.forClient? client = some items := by
    intro client hm
    obtain ⟨uri, htook⟩ := Registry.mem_openers_iff.1 hm
    have huri := htook.uri_eq hreach h.ended rfl
    have hs := (hpublished client uri htook).hasSlice hr.reachable
    obtain ⟨items, hs⟩ := Option.isSome_iff_exists.1 hs
    obtain ⟨record, hrecord, hs⟩ := Option.bind_eq_some_iff.1 hs
    exact ⟨record, items, (hplain.diagnosticsOf_eq huri).trans hrecord, hs⟩
  obtain ⟨client, hclient⟩ := List.exists_mem_of_length_pos (hlength ▸ h.taken)
  obtain ⟨record, -, hrecord, -⟩ := hslice client hclient
  refine ⟨record, hrecord, lacking_eq_nil_iff.2 fun client hm => ?_⟩
  obtain ⟨record', items, hrecord', hs⟩ := hslice client hm
  cases hrecord.symm.trans hrecord'
  exact Option.isSome_iff_exists.2 ⟨items, hs⟩

theorem openFiles_opened (w : Workspace) (s : Session) (names : List Path) :
    s.Follows (openFiles w s names).1 ∧ ∀ file ∈ (openFiles w s names).2.1,
      ∃ t, file.By (openFiles w s names).1.registry t := by
  induction names generalizing s with
  | nil => exact ⟨.refl s, nofun⟩
  | cons name names ih =>
    obtain ⟨hfollows, hopened⟩ := ih (s.call (.watched .opened (w.file name))).1
    have hcall : s.Follows (s.call (.watched .opened (w.file name))).1 :=
      (Session.follows_act s _).trans (Session.follows_call s _)
    rw [openFiles]
    dsimp only
    split
    · exact ⟨hcall.trans hfollows, hopened⟩
    · exact ⟨hcall.trans hfollows, hopened⟩
    · rename_i n hn hresult
      refine ⟨hcall.trans hfollows, List.forall_mem_cons.2 ⟨?_, hopened⟩⟩
      obtain ⟨t, ht⟩ := Session.task_of_call hresult
      obtain ⟨more, hmore⟩ := hfollows
      have htaken : 0 < n := Nat.pos_of_ne_zero fun h => hn (h ▸ rfl)
      have hby : OpenedFile.By ⟨name, w.file name, n⟩
          (s.call (.watched .opened (w.file name))).1.registry t := ⟨htaken, ht⟩
      exact ⟨t, hmore ▸ hby.run more⟩
    · exact ⟨hcall.trans hfollows, hopened⟩

theorem allReported_iff_lacking (hr : r₀.Fresh)
    (hfiles : ∀ file ∈ files, ∃ t, file.By (r₀.run actions) t) :
    allReported (r₀.run actions) files = true ↔
      ∀ file ∈ files, ∀ t, file.By (r₀.run actions) t →
        ∃ record, diagnosticsOf (r₀.run actions) file = some record ∧
          (lacking (r₀.run actions) t record).length ≤
            (strangers (r₀.run actions) t record).length := by
  rw [allReported_iff]
  constructor
  · intro h file hm t ht
    obtain ⟨record, hf, henough⟩ := h file hm
    exact ⟨record, hf, (ht.enough_iff hr hf).1 henough⟩
  · intro h file hm
    obtain ⟨t, ht⟩ := hfiles file hm
    obtain ⟨record, hf, henough⟩ := h file hm t ht
    exact ⟨record, hf, (ht.enough_iff hr hf).2 henough⟩

/-- The wait is over just when each file has a record in which strangers make up for the openers
that it lacks. So no opener is missing if there are no strangers; and once all openers of files with
plain paths have reported under the URIs that they were sent, the wait is over. The files that the
command opens in a workspace are such files, and go on to be, whatever happens later. -/
theorem waits_by_count (hr : r₀.Fresh) (actions : List RegistryAction)
    (hfiles : ∀ file ∈ files, ∃ t, file.By (r₀.run actions) t) :
    let r := r₀.run actions
    (allReported r files = true ↔ ∀ file ∈ files, ∀ t, file.By r t →
      ∃ record, diagnosticsOf r file = some record ∧
        (lacking r t record).length ≤ (strangers r t record).length) ∧
    (allReported r files = true → ∀ file ∈ files, ∀ t, file.By r t →
      ∃ record, diagnosticsOf r file = some record ∧ (strangers r t record = [] →
        ∀ client ∈ r.openers t, (record.forClient? client).isSome)) ∧
    ((∀ file ∈ files, file.Plain r) →
      (∀ file ∈ files, ∀ t, file.By r t → ∀ client uri, r.TookOpening t client uri →
        r₀.Publishes actions client uri) →
      allReported r files = true) ∧
    ∀ m w settings names, let s := session m w settings
      let opened := openFiles w s names
      s.registry.Fresh ∧ ∃ before, opened.1.registry = s.registry.run before ∧
        ∀ more, ∀ file ∈ opened.2.1, ∃ t, file.By (s.registry.run (before ++ more)) t := by
  intro r
  have hcount := allReported_iff_lacking hr hfiles
  refine ⟨hcount, fun h file hm t ht => ?_, fun hplain hpublished => ?_,
    fun m w settings names => ?_⟩
  · obtain ⟨record, hf, henough⟩ := hcount.1 h file hm t ht
    refine ⟨record, hf, fun hstrangers => lacking_eq_nil_iff.1 ?_⟩
    rw [hstrangers] at henough
    exact List.eq_nil_of_length_eq_zero (Nat.le_zero.1 henough)
  · refine hcount.2 fun file hm t ht => ?_
    obtain ⟨record, hf, hlacking⟩ := ht.found hr (hplain file hm) (hpublished file hm t ht)
    refine ⟨record, hf, ?_⟩
    rw [hlacking]
    exact Nat.zero_le _
  · intro s opened
    obtain ⟨⟨before, hbefore⟩, hopened⟩ := openFiles_opened w s names
    refine ⟨⟨_, _, _, _, _, rfl⟩, before, hbefore, fun more file hm => ?_⟩
    obtain ⟨t, ht⟩ := hopened file hm
    rw [Registry.run_append, ← hbefore]
    exact ⟨t, ht.run more⟩

def serving (ids : List String) : Registry :=
  .ofConfigs (.ofString "/w") (ids.map fun id => ⟨id, "", id, [], [.conditions none none none]⟩)
    none (fun _ => true) 1000

theorem fresh_serving (ids : List String) : (serving ids).Fresh := ⟨_, _, _, _, _, rfl⟩

def fileAt (name path : String) : OpenedFile := ⟨.ofString name, .ofString path, 1⟩

/-- A file is opened, and the server that is started for it takes it. -/
def openedAt (path : String) : List RegistryAction :=
  [.call (.watched .opened (.ofString path)), .resume 0, .read 0 (.ok ""), .deliver 0 0,
    .spawned 0 (.running false), .deliver 0 0, .sent 0 0 true]

/-- A file is opened, and of the two servers that are started for it only the first takes it. -/
def openedByFirst (path : String) : List RegistryAction :=
  [.call (.watched .opened (.ofString path)), .resume 0, .read 0 (.ok ""), .deliver 0 0,
    .deliver 0 1, .spawned 0 (.running false), .spawned 1 (.running false), .deliver 0 0,
    .deliver 0 1, .sent 0 0 true, .sent 0 1 false]

def reportOn (h : Nat) (uri : String) : RegistryAction :=
  .notify h Rpc.publishDiagnostics (Registry.oneReport uri)

theorem publishes_reportOn {h : Nat} {client uri : String} (hs : (r.run actions).Serves 0 h)
    (hclient : (r.run actions).client? h = some client) (hne : uri.isEmpty = false) :
    r.Publishes (actions ++ [reportOn h uri]) client uri :=
  ⟨actions, h, _, [], 0, _, rfl, hs, hclient, Registry.ofParams?_oneReport hne, rfl, nofun⟩

theorem found_reportOn {e h : Nat} {client uri : String} (hr : r.Reachable) (hplain : file.Plain r)
    (huri : Uri.ofPath? (r.resolve file.path) = some uri) (hne : uri.isEmpty = false)
    (hs : (r.run actions).Serves e h) (hclient : (r.run actions).client? h = some client)
    (hn : (r.run actions).hub.store.get? (Uri.canonical uri) = none) :
    ∃ record, diagnosticsOf (r.run (actions ++ [reportOn h uri])) file = some record ∧
      record.clients = [client] := by
  rw [(hplain.run _).diagnosticsOf_eq ((Registry.resolve_run r _ _).symm ▸ huri),
    Registry.run_append]
  have hparams := Registry.ofParams?_oneReport hne
  obtain ⟨record, hrecord, hclients⟩ := (hr.run actions).clients_notify hs hclient hparams hn
  exact ⟨record, hrecord, hclients⟩

/-- Of one server that has been started and sent a document, it is known who took which opening. -/
theorem took_only {e h : Nat} {client client' uri uri' language text : String} {version : Int32}
    (hhistory : r.history = [.accepted 0 h (.didOpen uri language version text), .spawning e])
    (hclient : r.client? h = some client) (htook : r.TookOpening t client' uri') :
    client' = client ∧ uri' = uri := by
  obtain ⟨h', language', version', text', hm, hclient'⟩ := htook
  rw [hhistory] at hm
  obtain heq | hm := List.mem_cons.1 hm
  · cases heq
    exact ⟨Option.some.inj (hclient'.symm.trans hclient), rfl⟩
  · cases List.mem_singleton.1 hm

theorem plain_fileAt (ids : List String) : (fileAt "a.ts" "/w/a.ts").Plain (serving ids) where
  shown := by decide +kernel
  named := by decide +kernel
  down :=
    have h : .up ∉ ((Path.ofString "/w").join (.ofString "/w/a.ts")).components := by
      decide +kernel
    h

theorem uri_fileAt (ids : List String) :
    Uri.ofPath? ((serving ids).resolve (fileAt "a.ts" "/w/a.ts").path) = some "file:///w/a.ts" := by
  have h : Uri.ofPath? ((Path.ofString "/w").join (.ofString "/w/a.ts")) =
      some "file:///w/a.ts" := by
    decide +kernel
  exact h

theorem waits_by_count_one :
    let r := (serving ["ts"]).run (openedAt "/w/a.ts" ++ [reportOn 0 "file:///w/a.ts"])
    (fileAt "a.ts" "/w/a.ts").By r 0 ∧ allReported r [fileAt "a.ts" "/w/a.ts"] = true ∧
      ∃ record, diagnosticsOf r (fileAt "a.ts" "/w/a.ts") = some record ∧
        strangers r 0 record = [] ∧ (record.forClient? "ts").isSome := by
  intro r
  have hby : (fileAt "a.ts" "/w/a.ts").By r 0 := ⟨by decide, rfl⟩
  have hserves : ((serving ["ts"]).run (openedAt "/w/a.ts")).Serves 0 0 := ⟨_, rfl, rfl, rfl⟩
  obtain ⟨-, hsound, hcomplete, -⟩ := waits_by_count (fresh_serving ["ts"])
    (openedAt "/w/a.ts" ++ [reportOn 0 "file:///w/a.ts"])
    (List.forall_mem_singleton.2 ⟨0, hby⟩)
  have hreported : allReported r [fileAt "a.ts" "/w/a.ts"] = true := by
    refine hcomplete (List.forall_mem_singleton.2 ((plain_fileAt ["ts"]).run _))
      (List.forall_mem_singleton.2 fun t _ client uri htook => ?_)
    obtain ⟨rfl, rfl⟩ := took_only rfl rfl htook
    exact publishes_reportOn hserves rfl rfl
  obtain ⟨record, hfound, hslices⟩ := hsound hreported _ (List.mem_singleton_self _) 0 hby
  have hstrangers : strangers r 0 record = [] := by
    obtain ⟨record', hfound', hclients⟩ := found_reportOn (fresh_serving ["ts"]).reachable
      (plain_fileAt ["ts"]) (uri_fileAt ["ts"]) rfl hserves rfl rfl
    cases hfound.symm.trans hfound'
    rw [strangers, hclients]
    rfl
  exact ⟨hby, hreported, record, hfound, hstrangers, hslices hstrangers "ts" (.head _)⟩

/-- A server that did not take the file reports on it, before the one that did. -/
def overtaken : Registry :=
  (serving ["ts", "lint"]).run (openedByFirst "/w/a.ts" ++ [reportOn 1 "file:///w/a.ts"])

/-- A server reports on a file whose path goes up, under the URI that it was sent. -/
def goingUp : List RegistryAction :=
  openedAt "/w/b/../a.ts" ++ [reportOn 0 "file:///w/b/../a.ts"]

/-- The report is kept under the canonical spelling, and the path is looked for as it is. -/
theorem diagnosticsOf_goingUp :
    diagnosticsOf ((serving ["ts"]).run goingUp) (fileAt "b/../a.ts" "/w/b/../a.ts") = none := by
  have hdisplay : (fileAt "b/../a.ts" "/w/b/../a.ts").path.display = "/w/b/../a.ts" := by
    decide +kernel
  have hkey : ((serving ["ts"]).run (openedAt "/w/b/../a.ts")).key? "/w/b/../a.ts" =
      some "file:///w/b/../a.ts" := by
    decide +kernel
  have hother : ∀ action ∈ [reportOn 0 "file:///w/b/../a.ts"],
      action.reported? ≠ some "file:///w/b/../a.ts" := by
    decide +kernel
  have hbefore : ((serving ["ts"]).run (openedAt "/w/b/../a.ts")).diagnostics? "/w/b/../a.ts" =
      none := by
    decide +kernel
  rw [diagnosticsOf, hdisplay, goingUp, Registry.run_append,
    Registry.diagnostics?_run hkey hother, hbefore]

/-- A wait that ends too early, and one that does not end. -/
theorem miscounted :
    ((fileAt "a.ts" "/w/a.ts").By overtaken 0 ∧
      overtaken.TookOpening 0 "ts" "file:///w/a.ts" ∧
      allReported overtaken [fileAt "a.ts" "/w/a.ts"] = true ∧
      ∃ record, diagnosticsOf overtaken (fileAt "a.ts" "/w/a.ts") = some record ∧
        record.forClient? "ts" = none) ∧
    (fileAt "b/../a.ts" "/w/b/../a.ts").By ((serving ["ts"]).run goingUp) 0 ∧
      (∀ client uri, ((serving ["ts"]).run goingUp).TookOpening 0 client uri →
        (serving ["ts"]).Publishes goingUp client uri) ∧
      allReported ((serving ["ts"]).run goingUp) [fileAt "b/../a.ts" "/w/b/../a.ts"] = false := by
  constructor
  · have hserves : ((serving ["ts", "lint"]).run (openedByFirst "/w/a.ts")).Serves 1 1 :=
      ⟨_, rfl, rfl, rfl⟩
    obtain ⟨record, hfound, hclients⟩ := found_reportOn (fresh_serving ["ts", "lint"]).reachable
      (plain_fileAt _) (uri_fileAt _) rfl hserves rfl rfl
    have hcount : record.clientCount = 1 := by
      rw [← record.length_clients, hclients]
      rfl
    refine ⟨⟨by decide, rfl⟩, ⟨0, _, _, _, .head _, rfl⟩, ?_, record, hfound, ?_⟩
    · exact allReported_iff.2 (List.forall_mem_singleton.2 ⟨record, hfound, hcount.ge⟩)
    · rw [← Option.not_isSome_iff_eq_none, ← FileDiagnostics.mem_clients, hclients]
      decide
  · have hserves : ((serving ["ts"]).run (openedAt "/w/b/../a.ts")).Serves 0 0 := ⟨_, rfl, rfl, rfl⟩
    refine ⟨⟨by decide, rfl⟩, fun client uri htook => ?_, ?_⟩
    · obtain ⟨rfl, rfl⟩ := took_only rfl rfl htook
      exact publishes_reportOn hserves rfl rfl
    · rw [allReported, List.all_cons, diagnosticsOf_goingUp]
      rfl

end Program
end Switchyard
