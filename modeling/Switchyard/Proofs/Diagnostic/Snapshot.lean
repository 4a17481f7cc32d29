import Mathlib.Data.List.Nodup
import Switchyard.Proofs.Diagnostic.Reported
import Switchyard.Proofs.Text.Sorted

namespace Switchyard

namespace FileDiagnostics

variable {a b c : FileDiagnostics}

def HasErrors (f : FileDiagnostics) : Prop :=
  ∃ slice ∈ f.slices, ∃ d ∈ slice.2, d.severity = some .error

/-- A file with errors comes before one without; else the URIs decide. -/
def Precedes (a b : FileDiagnostics) : Prop :=
  a.HasErrors ∧ ¬ b.HasErrors ∨ (a.HasErrors ↔ b.HasErrors) ∧ a.uri < b.uri

theorem errorCount_pos_iff (h : a.all = a.slices.flatMap (·.2)) :
    0 < a.errorCount ↔ a.HasErrors := by
  rw [errorCount, List.countP_pos_iff, h]
  constructor
  · rintro ⟨d, hd, he⟩
    obtain ⟨slice, hs, hd⟩ := List.mem_flatMap.1 hd
    exact ⟨slice, hs, d, hd, beq_iff_eq.1 he⟩
  · rintro ⟨slice, hs, d, hd, he⟩
    exact ⟨d, List.mem_flatMap.2 ⟨slice, hs, hd⟩, beq_iff_eq.2 he⟩

end FileDiagnostics

namespace DiagnosticsStore

open FileDiagnostics

variable {s : DiagnosticsStore} {uri : String} {a b c file : FileDiagnostics}

theorem before_iff : before a b = true ↔
    0 < a.errorCount ∧ ¬ 0 < b.errorCount ∨
      (0 < a.errorCount ↔ 0 < b.errorCount) ∧ a.uri ≤ b.uri := by
  unfold before
  by_cases ha : 0 < a.errorCount <;> by_cases hb : 0 < b.errorCount <;>
    simp_all [Nat.pos_iff_ne_zero]

theorem before_trans (a b c : FileDiagnostics) (hab : before a b = true)
    (hbc : before b c = true) : before a c = true := by
  rw [before_iff] at *
  have htrans : a.uri ≤ b.uri → b.uri ≤ c.uri → a.uri ≤ c.uri := String.le_trans
  grind

theorem before_total (a b : FileDiagnostics) : (before a b || before b a) = true := by
  rw [Bool.or_eq_true, before_iff, before_iff]
  have htotal := String.le_total a.uri b.uri
  grind

theorem uri_eq_of_before (hab : before a b = true) (hba : before b a = true) : a.uri = b.uri := by
  rw [before_iff] at *
  have hanti : a.uri ≤ b.uri → b.uri ≤ a.uri → a.uri = b.uri := String.le_antisymm
  grind

theorem pairwise_snapshot (s : DiagnosticsStore) :
    s.snapshot.Pairwise fun a b => before a b = true :=
  List.pairwise_mergeSort before_trans before_total _

theorem snapshot_perm (s : DiagnosticsStore) : s.snapshot.Perm (s.files.map (·.2)) :=
  List.mergeSort_perm _ _

/-- Each document has one record at most, which is a record of it and up to date. -/
structure Filed (s : DiagnosticsStore) : Prop where
  keys : (s.files.map (·.1)).Nodup
  uri : ∀ entry ∈ s.files, entry.2.uri = entry.1
  all : ∀ entry ∈ s.files, entry.2.all = entry.2.slices.flatMap (·.2)

theorem keys_erase (s : DiagnosticsStore) (uri : String) :
    (s.erase uri).files.map (·.1) = (s.files.map (·.1)).filter (· != uri) := by
  rw [List.filter_map]
  rfl

theorem nodup_erase (h : (s.files.map (·.1)).Nodup) (uri : String) :
    ((s.erase uri).files.map (·.1)).Nodup := by
  rw [keys_erase]
  exact h.filter _

theorem nodup_set (h : (s.files.map (·.1)).Nodup) (uri : String) (file : FileDiagnostics) :
    ((s.set uri file).files.map (·.1)).Nodup := by
  refine List.nodup_cons.2 ⟨?_, nodup_erase h uri⟩
  rw [keys_erase]
  simp

theorem nodup_clear (h : (s.files.map (·.1)).Nodup) (uri : String) (client : Option String) :
    ((s.clear uri client).1.files.map (·.1)).Nodup := by
  unfold clear
  split
  · exact h
  · exact nodup_erase h uri
  · split
    · exact h
    · dsimp only
      split
      · exact nodup_erase h uri
      · exact nodup_set h uri _

theorem get?_eq_some_iff (h : (s.files.map (·.1)).Nodup) :
    s.get? uri = some file ↔ (uri, file) ∈ s.files := by
  unfold get?
  generalize s.files = files at h
  induction files with
  | nil => simp
  | cons entry files ih =>
    obtain ⟨hentry, hfiles⟩ := List.nodup_cons.1 h
    rw [List.lookup_cons, List.mem_cons]
    by_cases hu : uri = entry.1
    · subst hu
      have hnot : (entry.1, file) ∉ files := fun hm => hentry (List.mem_map.2 ⟨_, hm, rfl⟩)
      simp [hnot, Prod.ext_iff, eq_comm]
    · have hne : (uri, file) ≠ entry := fun he => hu (congrArg Prod.fst he)
      rw [beq_false_of_ne hu, ih hfiles]
      exact (or_iff_right hne).symm

namespace Filed

theorem uris_nodup (h : s.Filed) : (s.snapshot.map (·.uri)).Nodup := by
  have huri : (s.files.map (·.2)).map (·.uri) = s.files.map (·.1) := by
    rw [List.map_map]
    exact List.map_congr_left h.uri
  rw [((snapshot_perm s).map _).nodup_iff, huri]
  exact h.keys

theorem mem_snapshot (h : s.Filed) : file ∈ s.snapshot ↔ ∃ uri, s.get? uri = some file := by
  rw [(snapshot_perm s).mem_iff, List.mem_map]
  constructor
  · rintro ⟨⟨uri, _⟩, hm, rfl⟩
    exact ⟨uri, (get?_eq_some_iff h.keys).2 hm⟩
  · rintro ⟨uri, hf⟩
    exact ⟨(uri, file), (get?_eq_some_iff h.keys).1 hf, rfl⟩

theorem errorCount_pos (h : s.Filed) (hm : file ∈ s.snapshot) :
    0 < file.errorCount ↔ file.HasErrors := by
  obtain ⟨entry, hentry, rfl⟩ := List.mem_map.1 ((snapshot_perm s).mem_iff.1 hm)
  exact errorCount_pos_iff (h.all entry hentry)

theorem pairwise_precedes (h : s.Filed) : s.snapshot.Pairwise Precedes := by
  have hne : s.snapshot.Pairwise fun a b => a.uri ≠ b.uri := List.pairwise_map.1 h.uris_nodup
  refine ((pairwise_snapshot s).and hne).imp_of_mem fun {a b} ha hb ⟨hab, hne⟩ => ?_
  have hlt (hle : a.uri ≤ b.uri) : a.uri < b.uri :=
    String.not_le.1 fun hge => hne (String.le_antisymm hle hge)
  rw [before_iff, h.errorCount_pos ha, h.errorCount_pos hb] at hab
  exact hab.imp_right fun ⟨hiff, hle⟩ => ⟨hiff, hlt hle⟩

theorem snapshot_eq (h : s.Filed) {files : List (String × FileDiagnostics)}
    (hp : files.Perm s.files) : (⟨files⟩ : DiagnosticsStore).snapshot = s.snapshot := by
  have hsame : (⟨files⟩ : DiagnosticsStore).snapshot.Perm s.snapshot :=
    ((snapshot_perm ⟨files⟩).trans (hp.map _)).trans (snapshot_perm s).symm
  refine List.Perm.eq_of_pairwise (fun a b ha hb hab hba => ?_) (pairwise_snapshot _)
    (pairwise_snapshot s) hsame
  exact List.inj_on_of_nodup_map h.uris_nodup (hsame.mem_iff.1 ha) hb (uri_eq_of_before hab hba)

end Filed

theorem mem_uris (h : (s.files.map (·.1)).Nodup) :
    uri ∈ s.uris ↔ ∃ file, s.get? uri = some file := by
  rw [uris, Text.mem_sortedSet, List.mem_map]
  constructor
  · rintro ⟨⟨_, file⟩, hm, rfl⟩
    exact ⟨file, (get?_eq_some_iff h).2 hm⟩
  · rintro ⟨file, hf⟩
    exact ⟨(uri, file), (get?_eq_some_iff h).1 hf, rfl⟩

theorem uris_eq {files : List (String × FileDiagnostics)} (hp : files.Perm s.files) :
    (⟨files⟩ : DiagnosticsStore).uris = s.uris :=
  Text.sortedSet_congr fun _ => (hp.map _).mem_iff

end DiagnosticsStore

namespace DiagnosticsHub

open DiagnosticsStore

theorem keys_nodup (steps : List HubStep) : ((empty.run steps).store.files.map (·.1)).Nodup := by
  refine run_induction (p := fun _ h => (h.store.files.map (·.1)).Nodup) .nil ?_ steps
  intro steps step ih
  cases step with
  | use call =>
    cases call with
    | upsert uri client items version => exact nodup_set ih uri _
    | clear uri client =>
      rw [step, store_clear]
      exact nodup_clear ih uri client
    | subscribe | unsubscribe => exact ih
  | tell | fail =>
    rw [step, store_tell]
    exact ih

theorem filed_run (steps : List HubStep) : (empty.run steps).store.Filed := by
  have hfits (entry) (hm : entry ∈ (empty.run steps).store.files) :=
    Reporting.record?_fits ((get?_run steps entry.1).symm.trans
      ((get?_eq_some_iff (keys_nodup steps)).2 hm))
  exact ⟨keys_nodup steps, fun entry hm => (hfits entry hm).1, fun entry hm =>
    (hfits entry hm).2.2.2.2.2⟩

/-- A snapshot is the stored records, each once, in the one order that there is: those with errors
first and in both groups the URIs increasing. `uris` lists, increasing too, just the documents that
have a record. The order in which the store keeps its records is not seen in either. -/
theorem snapshot_canonical (steps : List HubStep) :
    let s := (empty.run steps).store
    s.snapshot.Perm (s.files.map (·.2)) ∧ s.snapshot.Nodup ∧
    (∀ file, file ∈ s.snapshot ↔ ∃ uri, s.get? uri = some file) ∧
    s.snapshot.Pairwise FileDiagnostics.Precedes ∧
    s.uris.Pairwise (· < ·) ∧
    (∀ uri, uri ∈ s.uris ↔ ∃ file, s.get? uri = some file) ∧
    ∀ files, files.Perm s.files →
      (⟨files⟩ : DiagnosticsStore).snapshot = s.snapshot ∧
      (⟨files⟩ : DiagnosticsStore).uris = s.uris := by
  intro s
  have h : s.Filed := filed_run steps
  refine ⟨snapshot_perm s, h.uris_nodup.of_map, fun file => h.mem_snapshot, h.pairwise_precedes,
    Text.pairwise_sortedSet _, fun uri => mem_uris h.keys, fun files hp => ?_⟩
  exact ⟨h.snapshot_eq hp, uris_eq hp⟩

def troubled : Diagnostic := { (default : Diagnostic) with severity := some .error }

theorem snapshot_canonical_three :
    let steps := [.use (.upsert "b" "ts" [] none), .use (.upsert "a" "ts" [default] none),
      .use (.upsert "c" "ts" [troubled] none)]
    let s := (empty.run steps).store
    s.files.reverse.Perm s.files ∧
      (⟨s.files.reverse⟩ : DiagnosticsStore).snapshot.map (·.uri) = ["c", "a", "b"] ∧
      (⟨s.files.reverse⟩ : DiagnosticsStore).uris = ["a", "b", "c"] := by
  intro steps s
  obtain ⟨-, -, -, -, -, -, hperm⟩ := snapshot_canonical steps
  obtain ⟨hsnapshot, huris⟩ := hperm _ (List.reverse_perm s.files)
  have hsorted : (s.files.map (·.2)).Pairwise fun a b => before a b = true := by decide +kernel
  have hsame : s.snapshot = s.files.map (·.2) := List.mergeSort_of_pairwise hsorted
  refine ⟨List.reverse_perm s.files, ?_, ?_⟩
  · rw [hsnapshot, hsame]
    decide +kernel
  · rw [huris]
    decide +kernel

end DiagnosticsHub
end Switchyard
