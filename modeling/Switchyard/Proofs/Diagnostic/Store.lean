import Switchyard.Diagnostic.Hub
import Switchyard.Proofs.Positions

namespace Switchyard

namespace FileDiagnostics

variable {client : String} {items : List Diagnostic}

theorem lookup_setSlice (slices : List (String × List Diagnostic)) :
    (setSlice client items slices).lookup client = some items := by
  induction slices with
  | nil => simp [setSlice]
  | cons s rest ih =>
    rw [setSlice]
    split
    · simp
    · rename_i hs
      have hne : client ≠ s.1 := fun heq => hs (beq_iff_eq.2 heq.symm)
      rw [List.lookup_cons, beq_false_of_ne hne]
      exact ih

theorem filter_setSlice (slices : List (String × List Diagnostic)) :
    (setSlice client items slices).filter (·.1 != client) = slices.filter (·.1 != client) := by
  induction slices with
  | nil => simp [setSlice]
  | cons s rest ih =>
    rw [setSlice]
    split
    · rename_i hs
      simp [beq_iff_eq.1 hs]
    · rw [List.filter_cons, List.filter_cons, ih]

theorem forClient?_publish (f : FileDiagnostics) (client : String) (items : List Diagnostic)
    (version : Option Int32) : (f.publish client items version).forClient? client = some items :=
  lookup_setSlice f.slices

end FileDiagnostics

namespace DiagnosticsStore

variable {s : DiagnosticsStore} {uri uri' : String}

theorem get?_erase (s : DiagnosticsStore) (uri uri' : String) :
    (s.erase uri).get? uri' = if uri' = uri then none else s.get? uri' :=
  lookup_filter_bne s.files uri uri'

theorem get?_erase_of_ne (h : uri' ≠ uri) : (s.erase uri).get? uri' = s.get? uri' :=
  (get?_erase s uri uri').trans (if_neg h)

@[simp] theorem get?_erase_self (s : DiagnosticsStore) (uri : String) :
    (s.erase uri).get? uri = none :=
  (get?_erase s uri uri).trans (if_pos rfl)

@[simp] theorem get?_set_self (s : DiagnosticsStore) (uri : String) (file : FileDiagnostics) :
    (s.set uri file).get? uri = some file := by
  simp [set, get?]

theorem get?_set_of_ne {file : FileDiagnostics} (h : uri' ≠ uri) :
    (s.set uri file).get? uri' = s.get? uri' := by
  have herase : (s.erase uri).files.lookup uri' = s.files.lookup uri' := get?_erase_of_ne h
  rw [get?, set, List.lookup_cons, beq_false_of_ne h]
  exact herase

theorem get?_upsert (s : DiagnosticsStore) (uri client : String) (items : List Diagnostic)
    (version : Option Int32) :
    (s.upsert uri client items version).1.get? uri =
      some (((s.get? uri).getD (.empty uri)).publish client items version) :=
  get?_set_self s uri _

theorem get?_clear_of_ne {client : Option String} (h : uri' ≠ uri) :
    (s.clear uri client).1.get? uri' = s.get? uri' := by
  unfold clear
  split
  · rfl
  · exact get?_erase_of_ne h
  · split
    · rfl
    · dsimp only
      split
      · exact get?_erase_of_ne h
      · exact get?_set_of_ne h

theorem get?_clear_none (s : DiagnosticsStore) (uri : String) :
    (s.clear uri none).1.get? uri = none := by
  unfold clear
  split
  · assumption
  · exact get?_erase_self s uri
  · rename_i heq
    cases heq

theorem get?_clear_some {file : FileDiagnostics} {client : String} (hf : s.get? uri = some file)
    (hc : (file.forClient? client).isSome) :
    (s.clear uri (some client)).1.get? uri =
      if (file.removeClient client).slices.isEmpty then none
      else some (file.removeClient client) := by
  have hn : (file.forClient? client).isNone = false := by
    rw [← Option.not_isSome, hc]
    rfl
  simp only [clear, hf, hn, Bool.false_eq_true, if_false]
  split
  · exact get?_erase_self s uri
  · exact get?_set_self s uri _

theorem clear_absent {client : String}
    (hc : ((s.get? uri).bind (·.forClient? client)) = none) :
    s.clear uri (some client) = (s, none) := by
  unfold clear
  split
  · rfl
  · rename_i heq
    cases heq
  · rename_i file client' hf heq
    cases heq
    rw [hf, Option.bind_some] at hc
    rw [if_pos (Option.isNone_iff_eq_none.2 hc)]

theorem clear_eq_self {client : Option String} (hn : (s.clear uri client).2 = none) :
    (s.clear uri client).1 = s := by
  cases hf : s.get? uri with
  | none => simp only [clear, hf]
  | some file =>
    cases client with
    | none => simp [clear, hf] at hn
    | some client =>
      simp only [clear, hf] at hn ⊢
      split
      · rfl
      · rename_i hc
        rw [if_neg hc] at hn
        split at hn <;> cases hn

theorem clear_event {client : Option String} {event : DiagnosticsEvent}
    (he : (s.clear uri client).2 = some event) :
    event = ⟨uri, (s.clear uri client).1.get? uri⟩ := by
  unfold clear at he ⊢
  split at he
  · cases he
  · cases he
    rw [get?_erase_self]
  · split at he
    · cases he
    · rename_i hc
      rw [if_neg hc]
      dsimp only at he ⊢
      split at he
      · rename_i hs
        cases he
        rw [if_pos hs, get?_erase_self]
      · rename_i hs
        cases he
        rw [if_neg hs, get?_set_self]

theorem clear_none_isSome (s : DiagnosticsStore) (uri : String) :
    (s.clear uri none).2.isSome = (s.get? uri).isSome := by
  cases hf : s.get? uri <;> simp [clear, hf]

theorem clear_some_isSome (s : DiagnosticsStore) (uri client : String) :
    (s.clear uri (some client)).2.isSome =
      ((s.get? uri).bind (·.forClient? client)).isSome := by
  cases hf : s.get? uri with
  | none => simp [clear, hf]
  | some file =>
    cases hc : file.forClient? client with
    | none => simp [clear, hf, hc]
    | some items =>
      simp only [clear, hf, hc, Option.isNone_some, Bool.false_eq_true, if_false,
        Option.bind_some, Option.isSome_some]
      split <;> rfl

end DiagnosticsStore

def HubCall.uri? : HubCall → Option String
  | .upsert uri _ _ _ => some uri
  | .clear uri _ => some uri
  | _ => none

namespace DiagnosticsHub

variable {h h' : DiagnosticsHub}

theorem store_advance {receipt : Option Receipt} (step : h.advance = some (h', receipt)) :
    h'.store = h.store := by
  unfold advance at step
  split at step
  · contradiction
  all_goals
    cases step
    rfl

@[simp] theorem store_settle (h : DiagnosticsHub) : h.settle.store = h.store := by
  induction h using settle.induct with
  | case1 h hn => rw [settle, hn]
  | case2 h h' receipt hs ih =>
    rw [settle, hs]
    exact ih.trans (store_advance hs)

theorem store_use (h : DiagnosticsHub) (call : HubCall) :
    (h.use call).store = (h.call call).store :=
  store_settle _

theorem store_upsert (h : DiagnosticsHub) (uri client : String) (items : List Diagnostic)
    (version : Option Int32) :
    (h.call (.upsert uri client items version)).store =
      (h.store.upsert uri client items version).1 := rfl

theorem store_clear (h : DiagnosticsHub) (uri : String) (client : Option String) :
    (h.call (.clear uri client)).store = (h.store.clear uri client).1 := by
  unfold call
  dsimp only
  split
  · rename_i hc
    rw [hc]
    rfl
  · rename_i hc
    exact (DiagnosticsStore.clear_eq_self (by rw [hc])).symm

/-- A use of the hub leaves the other documents as they are, before anyone has been told of it. -/
theorem get?_call_of_ne {call : HubCall} {uri : String} (hu : call.uri? ≠ some uri) :
    (h.call call).store.get? uri = h.store.get? uri := by
  cases call with
  | upsert uri' client items version =>
    have hne : uri ≠ uri' := fun heq => hu (congrArg some heq.symm)
    exact DiagnosticsStore.get?_set_of_ne hne
  | clear uri' client =>
    have hne : uri ≠ uri' := fun heq => hu (congrArg some heq.symm)
    rw [store_clear]
    exact DiagnosticsStore.get?_clear_of_ne hne
  | subscribe => rfl
  | unsubscribe listener => rfl

theorem get?_use_of_ne {call : HubCall} {uri : String} (hu : call.uri? ≠ some uri) :
    (h.use call).store.get? uri = h.store.get? uri := by
  rw [store_use]
  exact get?_call_of_ne hu

end DiagnosticsHub
end Switchyard
