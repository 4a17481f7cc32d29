import Switchyard.Proofs.Registry.Published
import Switchyard.Proofs.Uri.Canonical

namespace Switchyard.Registry

open Switchyard.Uri (canonical toPath? ofPath?)

variable {r : Registry} {s target uri : String}

theorem isPrefixOf_ofPath? {p : Path} (h : ofPath? p = some uri) :
    "file:".toList.isPrefixOf uri.toList = true := by
  obtain ⟨cs, hc⟩ := Path.isAbsolute_iff.1 (Uri.isAbsolute_of_ofPath? h)
  obtain rfl := Option.some.inj (h.symm.trans (Uri.ofPath?_eq hc))
  exact (congrArg ("file:".toList.isPrefixOf ·) String.toList_ofList).trans rfl

theorem key?_canonical : r.key? (canonical s) = some (canonical s) ↔
    canonical (canonical s) = canonical s ∧ readsAsUri (canonical s) = true := by
  unfold key? readsAsUri
  by_cases hfile : "file:".toList.isPrefixOf (canonical s).toList = true
  · rw [if_pos hfile, hfile, Option.some_inj]
    exact (and_iff_left rfl).symm
  · -- What is not respelled as a URI of a file is left as it is.
    have hs : canonical (canonical s) = canonical s := by
      obtain ⟨hs, _⟩ | ⟨p, _, hu⟩ := Uri.canonical_cases s
      · rw [hs, hs]
      · exact absurd (isPrefixOf_ofPath? hu) hfile
    rw [if_neg hfile, Bool.eq_false_iff.2 hfile, and_iff_right hs, Bool.false_or]
    by_cases hscheme : hasScheme (canonical s).toList = true
    · rw [if_pos hscheme]
      exact iff_of_true rfl hscheme
    · rw [if_neg hscheme]
      exact iff_of_false (fun h => hfile (isPrefixOf_ofPath? h)) hscheme

/-- A canonical spelling is its own canonical spelling exactly if the URI does not go up, and its
canonical spelling always is. So a key that reads as a URI leads to its record exactly if the URI
that it is the canonical spelling of does not go up. -/
theorem canonical_normal (s : String) :
    (canonical (canonical s) = canonical s ↔ ¬ Uri.GoesUp s) ∧
    canonical (canonical (canonical s)) = canonical (canonical s) ∧
    (∀ r : Registry, r.key? (canonical s) = some (canonical s) ↔
      ¬ Uri.GoesUp s ∧ readsAsUri (canonical s) = true) ∧
    ∀ (r : Registry) (client : String) (report : Rpc.PublishDiagnostics), report.uri = s →
      ¬ Uri.GoesUp s → readsAsUri (canonical s) = true →
      ∃ record, (r.publish client report).diagnostics? (canonical s) = some record ∧
        record.forClient? client = some report.diagnostics := by
  have hkey (r : Registry) : r.key? (canonical s) = some (canonical s) ↔
      ¬ Uri.GoesUp s ∧ readsAsUri (canonical s) = true := by
    rw [key?_canonical, Uri.canonical_canonical_iff]
  refine ⟨Uri.canonical_canonical_iff, Uri.canonical_settles s, hkey, ?_⟩
  rintro r client report rfl hup hreads
  rw [diagnostics?_key ((hkey _).2 ⟨hup, hreads⟩), get?_publish]
  exact ⟨_, rfl, FileDiagnostics.forClient?_publish _ client report.diagnostics _⟩

/-- A registry without servers, once something has been reported on a URI. -/
def reportedOn (uri : String) : Registry :=
  (ofConfigs (.ofString "/w") [] none (fun _ => true) 1000).publish "ts" ⟨uri, none, []⟩

theorem canonical_normal_respelled :
    canonical "FILE://localhost/w/a%2fb%20.ts" = "file:///w/a/b%20.ts" ∧
      ∃ record, (reportedOn "FILE://localhost/w/a%2fb%20.ts").diagnostics? "file:///w/a/b%20.ts" =
        some record ∧ record.forClient? "ts" = some [] := by
  obtain ⟨-, -, -, hfound⟩ := canonical_normal "FILE://localhost/w/a%2fb%20.ts"
  have hkey : canonical "FILE://localhost/w/a%2fb%20.ts" = "file:///w/a/b%20.ts" := by
    decide +kernel
  rw [hkey] at hfound
  exact ⟨hkey,
    hfound _ "ts" ⟨"FILE://localhost/w/a%2fb%20.ts", none, []⟩ rfl (by decide +kernel) rfl⟩

/-- A URI that goes up between slashes in disguise. Its key is read as the URI of another document,
so what is reported on it is stored and not found. -/
theorem canonical_not_normal :
    canonical (canonical "file:///a%2F..%2Fb") ≠ canonical "file:///a%2F..%2Fb" ∧
      ((reportedOn "file:///a%2F..%2Fb").hub.store.get? (canonical "file:///a%2F..%2Fb")).isSome ∧
      (reportedOn "file:///a%2F..%2Fb").diagnostics? (canonical "file:///a%2F..%2Fb") = none := by
  have hkey : (reportedOn "file:///a%2F..%2Fb").key? (canonical "file:///a%2F..%2Fb") =
      some "file:///b" := by decide
  refine ⟨by decide, ?_, ?_⟩
  · rw [reportedOn, get?_publish]
    rfl
  · rw [diagnostics?_key hkey]
    exact DiagnosticsHub.get?_use_of_ne (by decide)

end Switchyard.Registry
