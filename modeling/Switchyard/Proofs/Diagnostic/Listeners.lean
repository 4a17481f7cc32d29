import Mathlib.Data.Finset.Card
import Mathlib.Data.Finset.Range
import Switchyard.Proofs.Diagnostic.Runs

namespace Switchyard

namespace ListenerKind

/-- What a listener of the kind does at its first event it never does again. -/
def actsOnce : ListenerKind → Bool
  | .subscribe | .clear _ => true
  | .record | .failing | .query | .unsubscribe _ => false

end ListenerKind

namespace ListenerRun

variable {r r' : ListenerRun} {c : HubCall}

theorem advance_eq_none : r.advance = none ↔ r.hub.emissions = [] := by
  unfold advance DiagnosticsHub.advance
  cases h : r.hub.emissions with
  | nil => simp
  | cons emission rest =>
    obtain ⟨serial, event, waiting⟩ := emission
    cases waiting <;> simp

theorem hub_react (r : ListenerRun) (receipt : Receipt) (first : Bool) (kind : ListenerKind) :
    (r.react receipt first kind).hub = r.hub ∨
      ∃ c, (r.react receipt first kind).hub = r.hub.call c := by
  cases kind with
  | record | failing | query => exact .inl rfl
  | unsubscribe target => exact .inr ⟨.unsubscribe (target.getD receipt.listener), rfl⟩
  | subscribe =>
    cases first
    · exact .inl rfl
    · exact .inr ⟨.subscribe, rfl⟩
  | clear client =>
    cases first
    · exact .inl rfl
    · exact .inr ⟨.clear receipt.event.uri client, rfl⟩

theorem advance_run (ha : r.advance = some r') : ∃ steps, r'.hub = r.hub.run steps := by
  unfold advance at ha
  split at ha
  · cases ha
  · rename_i hub hadv
    cases ha
    exact ⟨[.tell], (DiagnosticsHub.tell_of_advance hadv).symm⟩
  · rename_i hub receipt hadv
    cases ha
    have ht : r.hub.tell = hub := DiagnosticsHub.tell_of_advance hadv
    obtain h | ⟨c, h⟩ := hub_react _ receipt _ _
    · exact ⟨[.tell], h.trans ht.symm⟩
    · refine ⟨[.tell, .use c], h.trans ?_⟩
      simp [DiagnosticsHub.run, DiagnosticsHub.step, ht, note]

theorem advanceN_run (n : Nat) (r : ListenerRun) :
    ∃ steps, (advanceN n r).hub = r.hub.run steps := by
  induction n generalizing r with
  | zero => exact ⟨[], rfl⟩
  | succ n ih =>
    unfold advanceN
    cases ha : r.advance with
    | none => exact ⟨[], rfl⟩
    | some r' =>
      obtain ⟨first, hfirst⟩ := advance_run ha
      obtain ⟨second, hsecond⟩ := ih r'
      exact ⟨first ++ second, by rw [hsecond, hfirst, DiagnosticsHub.run_append]⟩

theorem use_run (r : ListenerRun) (c : HubCall) :
    ∃ steps, (r.use c).hub = r.hub.run (.use c :: steps) :=
  advanceN_run _ { r with hub := r.hub.call c }

/-- The listeners that may still do what they do at their first event only. -/
def unspent (r : ListenerRun) : Finset Nat :=
  (Finset.range r.kinds.length).filter fun i =>
    (r.kinds[i]?).any ListenerKind.actsOnce ∧ i ∉ r.called

theorem mem_unspent {i : Nat} :
    i ∈ r.unspent ↔ (r.kinds[i]?).any ListenerKind.actsOnce = true ∧ i ∉ r.called := by
  simp only [unspent, Finset.mem_filter, Finset.mem_range, and_iff_right_iff_imp]
  rintro ⟨hk, _⟩
  obtain ⟨kind, hk, _⟩ := (Option.any_eq_true _ _).1 hk
  exact (List.getElem?_eq_some_iff.1 hk).1

/-- A listener that has received an event has nothing left to do but what it does every time. -/
theorem unspent_told {listener : Nat} (hk : r'.kinds = r.kinds)
    (hc : r'.called = listener :: r.called) : r'.unspent = r.unspent.erase listener := by
  ext i
  simp only [mem_unspent, Finset.mem_erase, hk, hc, List.mem_cons, not_or]
  tauto

theorem mem_unspent_of_acts {listener : Nat} (hfirst : (!r.called.contains listener) = true)
    (hacts : ((r.kinds[listener]?).getD .record).actsOnce = true) : listener ∈ r.unspent := by
  refine mem_unspent.2 ⟨?_, by simpa using hfirst⟩
  cases hk : r.kinds[listener]? with
  | none =>
    rw [hk] at hacts
    cases hacts
  | some kind =>
    rw [hk] at hacts
    exact hacts

/-- How much a run has still to do, at most: every unspent listener can add one emission, to all
listeners that there may be then, or one listener. -/
def work (r : ListenerRun) : Nat :=
  r.hub.pending + r.unspent.card * (r.hub.listeners.length + r.unspent.card + 1)

theorem unspent_subscribe (r : ListenerRun) : (r.subscribe .record).unspent = r.unspent := by
  ext i
  simp only [mem_unspent, subscribe]
  refine and_congr_left fun _ => ?_
  rw [List.getElem?_append]
  split
  · rfl
  · rename_i hi
    rw [List.getElem?_eq_none (Nat.le_of_not_lt hi)]
    cases i - r.kinds.length <;> simp [ListenerKind.actsOnce]

theorem pending_emit (h : DiagnosticsHub) (event : DiagnosticsEvent) :
    (h.emit event).pending = h.listeners.length + 1 + h.pending := rfl

theorem listeners_clear (h : DiagnosticsHub) (uri : String) (client : Option String) :
    (h.call (.clear uri client)).listeners = h.listeners := by
  simp only [DiagnosticsHub.call]
  split <;> rfl

theorem pending_clear (h : DiagnosticsHub) (uri : String) (client : Option String) :
    (h.call (.clear uri client)).pending ≤ h.listeners.length + 1 + h.pending := by
  simp only [DiagnosticsHub.call]
  split
  · rw [pending_emit]
    exact Nat.le_refl _
  · exact Nat.le_add_left _ _

theorem work_mono {pending l l' u u' : Nat} (hl : l' ≤ l) (hu : u' ≤ u) :
    pending + u' * (l' + u' + 1) ≤ pending + u * (l + u + 1) :=
  Nat.add_le_add_left (Nat.mul_le_mul hu (by omega)) pending

theorem work_emission {pending l u u' : Nat} (hu : u' < u) :
    l + 1 + pending + u' * (l + u' + 1) ≤ pending + u * (l + u + 1) := by
  have hspent := Nat.mul_le_mul_right (l + u + 1) hu
  have hleft := Nat.mul_le_mul_left u' (show l + u' + 1 ≤ l + u + 1 by omega)
  rw [Nat.succ_mul] at hspent
  omega

/-- A listener that adds no listener and no emission adds no work, and what one that does so at its
first event adds has been reckoned with. -/
theorem work_react (receipt : Receipt) {kind : ListenerKind} {first : Bool} {u : Nat}
    (hu : r.unspent.card ≤ u)
    (hspent : first = true → kind.actsOnce = true → r.unspent.card < u) :
    (r.react receipt first kind).work ≤
      r.hub.pending + u * (r.hub.listeners.length + u + 1) := by
  have hidle : r.work ≤ r.hub.pending + u * (r.hub.listeners.length + u + 1) :=
    work_mono (Nat.le_refl _) hu
  cases kind with
  | record | failing | query => exact hidle
  | unsubscribe target => exact work_mono (List.length_filter_le _ _) hu
  | subscribe =>
    cases first
    · exact hidle
    have hlt := hspent rfl rfl
    simp only [react, if_true, work, unspent_subscribe]
    have hl : (r.subscribe .record).hub.listeners.length = r.hub.listeners.length + 1 := by
      simp [subscribe, DiagnosticsHub.call]
    rw [hl]
    exact Nat.add_le_add_left (Nat.mul_le_mul hu (by omega)) _
  | clear client =>
    cases first
    · exact hidle
    simp only [react, if_true, work, listeners_clear]
    exact (Nat.add_le_add_right (pending_clear _ _ _) _).trans (work_emission (hspent rfl rfl))

theorem work_advance (ha : r.advance = some r') : r'.work < r.work := by
  unfold advance at ha
  split at ha
  · cases ha
  · rename_i hub hadv
    cases ha
    have hp := DiagnosticsHub.pending_advance hadv
    have hl : hub.listeners = r.hub.listeners := by
      rw [← DiagnosticsHub.tell_of_advance hadv, DiagnosticsHub.listeners_tell]
    simp only [work, hl, ← hp]
    change _ + r.unspent.card * (_ + r.unspent.card + 1) < _
    omega
  · rename_i hub receipt hadv
    cases ha
    have hp := DiagnosticsHub.pending_advance hadv
    have hl : hub.listeners = r.hub.listeners := by
      rw [← DiagnosticsHub.tell_of_advance hadv, DiagnosticsHub.listeners_tell]
    let told : ListenerRun := { r with hub, called := receipt.listener :: r.called }.note
      receipt.listener (.event receipt.event)
    have htold : told.unspent = r.unspent.erase receipt.listener := unspent_told rfl rfl
    refine (work_react (r := told) receipt (u := r.unspent.card) ?_ ?_).trans_lt ?_
    · rw [htold]
      exact Finset.card_erase_le
    · intro hfirst hacts
      rw [htold]
      exact Finset.card_erase_lt_of_mem (mem_unspent_of_acts hfirst hacts)
    · change hub.pending + r.unspent.card * (hub.listeners.length + r.unspent.card + 1) < r.work
      rw [work, ← hp, hl]
      omega

theorem advanceN_rests {n : Nat} (hn : r.work ≤ n) : (advanceN n r).hub.emissions = [] := by
  induction n generalizing r with
  | zero =>
    cases ha : r.advance with
    | none => exact advance_eq_none.1 ha
    | some r' => exact absurd (Nat.lt_of_lt_of_le (work_advance ha) hn) (Nat.not_lt_zero _)
  | succ n ih =>
    unfold advanceN
    cases ha : r.advance with
    | none => exact advance_eq_none.1 ha
    | some r' =>
      have hlt := work_advance ha
      exact ih (by omega)

def Fits (r : ListenerRun) : Prop := r.hub.listeners.length ≤ r.kinds.length

theorem Fits.work_le_bound (hf : r.Fits) : r.work ≤ r.bound := by
  have hu : r.unspent.card ≤ r.kinds.length := by
    refine (Finset.card_filter_le _ _).trans ?_
    rw [Finset.card_range]
  have hf' : r.hub.listeners.length ≤ r.kinds.length := hf
  have hm := Nat.mul_le_mul hu
    (show r.hub.listeners.length + r.unspent.card + 1 ≤ 2 * r.kinds.length + 1 by omega)
  unfold work bound
  dsimp only
  omega

theorem Fits.call (hf : r.Fits) (hc : c ≠ .subscribe) :
    ({ r with hub := r.hub.call c } : ListenerRun).Fits := by
  cases c with
  | upsert uri client items version => exact hf
  | clear uri client => exact (congrArg List.length (listeners_clear r.hub uri client)).trans_le hf
  | subscribe => exact absurd rfl hc
  | unsubscribe listener => exact (List.length_filter_le _ _).trans hf

theorem Fits.subscribe (hf : r.Fits) (kind : ListenerKind) : (r.subscribe kind).Fits := by
  simpa [Fits, ListenerRun.subscribe, DiagnosticsHub.call] using hf

theorem Fits.react (hf : r.Fits) (receipt : Receipt) (first : Bool) (kind : ListenerKind) :
    (r.react receipt first kind).Fits := by
  cases kind with
  | record | failing | query => exact hf
  | unsubscribe target => exact hf.call nofun
  | subscribe =>
    cases first
    · exact hf
    · exact hf.subscribe .record
  | clear client =>
    cases first
    · exact hf
    · exact hf.call nofun

theorem Fits.advance (hf : r.Fits) (ha : r.advance = some r') : r'.Fits := by
  unfold ListenerRun.advance at ha
  split at ha
  · cases ha
  · rename_i hub hadv
    cases ha
    have hl := DiagnosticsHub.listeners_tell r.hub
    rw [DiagnosticsHub.tell_of_advance hadv] at hl
    exact (congrArg List.length hl).trans_le hf
  · rename_i hub receipt hadv
    cases ha
    have hl := DiagnosticsHub.listeners_tell r.hub
    rw [DiagnosticsHub.tell_of_advance hadv] at hl
    refine Fits.react ?_ receipt _ _
    exact (congrArg List.length hl).trans_le hf

theorem Fits.advanceN (hf : r.Fits) (n : Nat) : (advanceN n r).Fits := by
  induction n generalizing r with
  | zero => exact hf
  | succ n ih =>
    unfold ListenerRun.advanceN
    cases ha : r.advance with
    | none => exact hf
    | some r' => exact ih (hf.advance ha)

/-- A run that listeners were added to and the hub was used in, from the outset. -/
inductive Scripted : ListenerRun → Prop
  | empty : Scripted .empty
  | subscribe {r : ListenerRun} (hs : Scripted r) (kind : ListenerKind) :
    Scripted (r.subscribe kind)
  | use {r : ListenerRun} {c : HubCall} (hs : Scripted r) (hc : c ≠ .subscribe) :
    Scripted (r.use c)

theorem Scripted.fits (hs : r.Scripted) : r.Fits := by
  induction hs with
  | empty => exact Nat.le_refl 0
  | subscribe _ kind ih => exact ih.subscribe kind
  | use _ hc ih => exact (ih.call hc).advanceN _

theorem Scripted.rests (hs : r.Scripted) : r.hub.emissions = [] := by
  induction hs with
  | empty => rfl
  | subscribe _ _ ih => exact ih
  | use hs hc _ => exact advanceN_rests (hs.fits.call hc).work_le_bound

theorem Scripted.hub_run (hs : r.Scripted) : ∃ steps, r.hub = DiagnosticsHub.empty.run steps := by
  induction hs with
  | empty => exact ⟨[], rfl⟩
  | subscribe _ kind ih =>
    obtain ⟨steps, h⟩ := ih
    exact ⟨steps ++ [.use .subscribe], by rw [DiagnosticsHub.run_append, ← h]; rfl⟩
  | @use r c _ hc ih =>
    obtain ⟨steps, h⟩ := ih
    obtain ⟨more, hmore⟩ := use_run r c
    exact ⟨steps ++ .use c :: more, by rw [DiagnosticsHub.run_append, ← h, hmore]⟩

end ListenerRun
end Switchyard
