import Switchyard.Proofs.Diagnostic.Reported

namespace Switchyard

namespace DiagnosticsHub

variable {h : DiagnosticsHub} {call : HubCall} {uri : String} {serial l : Nat}
  {steps before after : List HubStep}

/-- Whether a use changes the store: a report always does, a clear if there is something to drop. -/
def changes (h : DiagnosticsHub) : HubCall → Bool
  | .upsert _ _ _ _ => true
  | .clear uri none => (h.store.get? uri).isSome
  | .clear uri (some client) => ((h.store.get? uri).bind (·.forClient? client)).isSome
  | .subscribe | .unsubscribe _ => false

def told (h : DiagnosticsHub) (serial : Nat) : List Receipt :=
  (h.received.filter (·.serial == serial)).reverse

def untold (h : DiagnosticsHub) (serial : Nat) : List Receipt :=
  (h.emissions.filter (·.serial == serial)).flatMap fun e =>
    e.waiting.map fun l => ⟨serial, l, e.event⟩

def due (h : DiagnosticsHub) (serial : Nat) : List Receipt := h.told serial ++ h.untold serial

/-- What a change of a document is to tell: to each listener that is registered when it is made, in
the order of their subscription, the record that it leaves. -/
def notices (h : DiagnosticsHub) (call : HubCall) (uri : String) : List Receipt :=
  h.listeners.map fun l => ⟨h.nextSerial, l, uri, (h.call call).store.get? uri⟩

theorem changes_clear (h : DiagnosticsHub) (uri : String) (client : Option String) :
    h.changes (.clear uri client) = (h.store.clear uri client).2.isSome := by
  cases client with
  | none => exact (DiagnosticsStore.clear_none_isSome h.store uri).symm
  | some client => exact (DiagnosticsStore.clear_some_isSome h.store uri client).symm

theorem call_clear_of_unchanged {client : Option String}
    (hc : h.changes (.clear uri client) = false) : h.call (.clear uri client) = h := by
  rw [changes_clear, Option.isSome_eq_false_iff, Option.isNone_iff_eq_none] at hc
  unfold call
  dsimp only
  split
  · rename_i heq
    rw [heq] at hc
    cases hc
  · rfl

theorem call_of_changes (hc : h.changes call) (hu : call.uri? = some uri) :
    h.call call = { h with store := (h.call call).store }.emit
      ⟨uri, (h.call call).store.get? uri⟩ := by
  cases call with
  | upsert uri' client items version =>
    cases hu
    rw [store_upsert, DiagnosticsStore.get?_upsert]
    rfl
  | clear uri' client =>
    cases hu
    rw [changes_clear] at hc
    obtain ⟨event, he⟩ := Option.isSome_iff_exists.1 hc
    have hcall : h.call (.clear uri client) =
        { h with store := (h.store.clear uri client).1 }.emit event := by
      unfold DiagnosticsHub.call
      dsimp only
      split
      · rename_i heq
        rw [heq] at he ⊢
        cases he
        rfl
      · rename_i heq
        rw [heq] at he
        cases he
    rw [store_clear, hcall, DiagnosticsStore.clear_event he]
  | _ => cases hc

theorem uri_of_changes (hc : h.changes call) : ∃ uri, call.uri? = some uri := by
  cases call with
  | upsert uri client items version => exact ⟨uri, rfl⟩
  | clear uri client => exact ⟨uri, rfl⟩
  | _ => cases hc

/-- A use that does not change the store at most registers or unregisters a listener. -/
theorem call_of_unchanged (hc : h.changes call = false) :
    h.call call = { h with
      listeners := (h.call call).listeners
      nextListener := (h.call call).nextListener } := by
  cases call with
  | upsert uri client items version => cases hc
  | clear uri client => rw [call_clear_of_unchanged hc]
  | _ => rfl

theorem nextSerial_call (h : DiagnosticsHub) (call : HubCall) :
    (h.call call).nextSerial = if h.changes call then h.nextSerial + 1 else h.nextSerial := by
  split
  · rename_i hc
    obtain ⟨uri, hu⟩ := uri_of_changes hc
    rw [call_of_changes hc hu]
    rfl
  · rename_i hc
    rw [call_of_unchanged (Bool.eq_false_iff.2 hc)]

/-- A split of a list that has grown is at its end, or one of the list before. -/
theorem split_concat {α : Type} {xs before after : List α} {x y : α} :
    xs ++ [y] = before ++ x :: after ↔
      (before = xs ∧ x = y ∧ after = []) ∨
        ∃ after', after = after' ++ [y] ∧ xs = before ++ x :: after' := by
  constructor
  · intro heq
    obtain rfl | ⟨after, z, rfl⟩ := List.eq_nil_or_concat after
    · obtain ⟨rfl, hxy⟩ := List.append_inj' heq rfl
      cases hxy
      exact .inl ⟨rfl, rfl, rfl⟩
    · rw [List.concat_eq_append, ← List.cons_append, ← List.append_assoc] at heq
      obtain ⟨rfl, hyz⟩ := List.append_inj' heq rfl
      cases hyz
      exact .inr ⟨after, List.concat_eq_append, rfl⟩
  · rintro (⟨rfl, rfl, rfl⟩ | ⟨after, rfl, rfl⟩)
    · rfl
    · rw [List.append_assoc, List.cons_append]

theorem exists_split_concat {α : Type} {xs : List α} {x y : α} {p : List α → List α → Prop} :
    (∃ before after, xs ++ [y] = before ++ x :: after ∧ p before after) ↔
      (x = y ∧ p xs []) ∨ ∃ before after, xs = before ++ x :: after ∧ p before (after ++ [y]) := by
  constructor
  · rintro ⟨before, after, heq, hp⟩
    obtain ⟨rfl, rfl, rfl⟩ | ⟨after, rfl, rfl⟩ := split_concat.1 heq
    · exact .inl ⟨rfl, hp⟩
    · exact .inr ⟨before, after, rfl, hp⟩
  · rintro (⟨rfl, hp⟩ | ⟨before, after, rfl, hp⟩)
    · exact ⟨xs, [], rfl, hp⟩
    · exact ⟨before, after ++ [y], by rw [List.append_assoc, List.cons_append], hp⟩

@[simp] theorem listeners_upsert (h : DiagnosticsHub) (uri client : String)
    (items : List Diagnostic) (version : Option Int32) :
    (h.call (.upsert uri client items version)).listeners = h.listeners := rfl

@[simp] theorem nextListener_upsert (h : DiagnosticsHub) (uri client : String)
    (items : List Diagnostic) (version : Option Int32) :
    (h.call (.upsert uri client items version)).nextListener = h.nextListener := rfl

@[simp] theorem listeners_clear (h : DiagnosticsHub) (uri : String) (client : Option String) :
    (h.call (.clear uri client)).listeners = h.listeners := by
  unfold call
  dsimp only
  split <;> rfl

@[simp] theorem nextListener_clear (h : DiagnosticsHub) (uri : String) (client : Option String) :
    (h.call (.clear uri client)).nextListener = h.nextListener := by
  unfold call
  dsimp only
  split <;> rfl

/-- A listener is registered from its subscription on until it is unsubscribed. -/
theorem mem_listeners_run (steps : List HubStep) (l : Nat) :
    l ∈ (empty.run steps).listeners ↔
      ∃ before after, steps = before ++ .use .subscribe :: after ∧
        l = (empty.run before).nextListener ∧ .use (.unsubscribe l) ∉ after := by
  refine run_induction (p := fun steps h => ∀ l, l ∈ h.listeners ↔
    ∃ before after, steps = before ++ .use .subscribe :: after ∧
      l = (empty.run before).nextListener ∧ .use (.unsubscribe l) ∉ after) ?_ ?_ steps l
  · intro l
    simp [empty]
  · intro steps step ih l
    rw [exists_split_concat]
    cases step with
    | use call =>
      cases call with
      | upsert uri client items version => simpa [DiagnosticsHub.step] using ih l
      | clear uri client => simpa [DiagnosticsHub.step] using ih l
      | subscribe =>
        have hl : l ∈ ((empty.run steps).step (.use .subscribe)).listeners ↔
            l ∈ (empty.run steps).listeners ∨ l = (empty.run steps).nextListener := by
          simp [DiagnosticsHub.step, DiagnosticsHub.call]
        rw [hl, ih, or_comm]
        simp
      | unsubscribe k =>
        have hl : l ∈ ((empty.run steps).step (.use (.unsubscribe k))).listeners ↔
            l ∈ (empty.run steps).listeners ∧ l ≠ k := by
          simp [DiagnosticsHub.step, DiagnosticsHub.call]
        rw [hl, ih]
        simp
        tauto
    | tell | fail => simpa [DiagnosticsHub.step] using ih l

/-- Listeners stand in the order of their numbers, which is that of their subscription. -/
theorem listeners_pairwise (steps : List HubStep) :
    (empty.run steps).listeners.Pairwise (· < ·) ∧
      ∀ l ∈ (empty.run steps).listeners, l < (empty.run steps).nextListener := by
  refine run_induction (p := fun _ h => h.listeners.Pairwise (· < ·) ∧
    ∀ l ∈ h.listeners, l < h.nextListener) ?_ ?_ steps
  · simp [empty]
  · rintro steps step ⟨hp, hlt⟩
    cases step with
    | use call =>
      cases call with
      | upsert uri client items version => exact ⟨hp, hlt⟩
      | clear uri client => simpa [DiagnosticsHub.step] using ⟨hp, hlt⟩
      | subscribe =>
        refine ⟨List.pairwise_append.2 ⟨hp, List.pairwise_singleton _ _, ?_⟩, ?_⟩
        · rintro l hl _ hm
          cases List.mem_singleton.1 hm
          exact hlt l hl
        · intro l hl
          obtain hl | hl := List.mem_append.1 hl
          · exact Nat.lt_succ_of_lt (hlt l hl)
          · cases List.mem_singleton.1 hl
            exact Nat.lt_succ_self _
      | unsubscribe k => exact ⟨hp.filter _, fun l hl => hlt l (List.mem_filter.1 hl).1⟩
    | tell | fail => simpa [DiagnosticsHub.step] using ⟨hp, hlt⟩

structure Numbered (h : DiagnosticsHub) : Prop where
  emissions : ∀ e ∈ h.emissions, e.serial < h.nextSerial
  received : ∀ r ∈ h.received, r.serial < h.nextSerial

theorem Numbered.use (hn : h.Numbered) (call : HubCall) : (h.call call).Numbered := by
  by_cases hc : h.changes call
  · obtain ⟨uri, hu⟩ := uri_of_changes hc
    rw [call_of_changes hc hu]
    refine ⟨?_, fun r hr => Nat.lt_succ_of_lt (hn.received r hr)⟩
    intro e he
    obtain rfl | he := List.mem_cons.1 he
    · exact Nat.lt_succ_self _
    · exact Nat.lt_succ_of_lt (hn.emissions e he)
  · rw [call_of_unchanged (Bool.eq_false_iff.2 hc)]
    exact ⟨hn.emissions, hn.received⟩

theorem Numbered.tell (hn : h.Numbered) : h.tell.Numbered := by
  obtain ⟨_, heq⟩ | ⟨serial, event, rest, he, heq⟩ |
    ⟨serial, event, l, waiting, rest, he, heq⟩ := tell_cases h
  · rwa [heq]
  · have hem := hn.emissions
    rw [he] at hem
    rw [heq]
    exact ⟨fun e hm => hem e (List.mem_cons_of_mem _ hm), hn.received⟩
  · have hem := hn.emissions
    rw [he] at hem
    have hs : serial < h.nextSerial := hem _ List.mem_cons_self
    rw [heq]
    refine ⟨?_, ?_⟩
    · intro e hm
      obtain rfl | hm := List.mem_cons.1 hm
      · exact hs
      · exact hem e (List.mem_cons_of_mem _ hm)
    · intro r hm
      obtain rfl | hm := List.mem_cons.1 hm
      · exact hs
      · exact hn.received r hm

theorem numbered_run (steps : List HubStep) : (empty.run steps).Numbered := by
  refine run_induction (p := fun _ h => h.Numbered) ⟨nofun, nofun⟩ ?_ steps
  intro steps step ih
  cases step with
  | use call => exact ih.use call
  | tell | fail => exact ih.tell

theorem Numbered.told (hn : h.Numbered) : h.told h.nextSerial = [] := by
  rw [DiagnosticsHub.told, List.reverse_eq_nil_iff, List.filter_eq_nil_iff]
  intro r hr
  simpa using Nat.ne_of_lt (hn.received r hr)

theorem Numbered.untold (hn : h.Numbered) : h.untold h.nextSerial = [] := by
  have hf : h.emissions.filter (·.serial == h.nextSerial) = [] := by
    rw [List.filter_eq_nil_iff]
    intro e he
    simpa using Nat.ne_of_lt (hn.emissions e he)
  rw [DiagnosticsHub.untold, hf]
  rfl

theorem due_of_changes (hn : h.Numbered) (hc : h.changes call) (hu : call.uri? = some uri) :
    (h.call call).due h.nextSerial = h.notices call uri := by
  have htold : (h.call call).told h.nextSerial = [] := by
    rw [call_of_changes hc hu]
    exact hn.told
  have huntold := hn.untold
  rw [DiagnosticsHub.untold] at huntold
  rw [due, htold, List.nil_append, DiagnosticsHub.untold]
  conv_lhs => rw [call_of_changes hc hu]
  simp only [notices, emit, List.filter_cons, BEq.rfl, if_true, List.flatMap_cons, huntold,
    List.append_nil]

theorem due_call (hs : serial < h.nextSerial) (call : HubCall) :
    (h.call call).due serial = h.due serial := by
  by_cases hc : h.changes call
  · obtain ⟨uri, hu⟩ := uri_of_changes hc
    have hne : (h.nextSerial == serial) = false := beq_false_of_ne (Nat.ne_of_gt hs)
    rw [call_of_changes hc hu]
    simp only [due, DiagnosticsHub.told, DiagnosticsHub.untold, emit, List.filter_cons, hne,
      Bool.false_eq_true, if_false]
  · rw [call_of_unchanged (Bool.eq_false_iff.2 hc)]
    rfl

/-- A delivery moves what is to be told to what has been told, and adds nothing. -/
theorem due_tell (h : DiagnosticsHub) (serial : Nat) : h.tell.due serial = h.due serial := by
  obtain ⟨_, heq⟩ | ⟨s, event, rest, he, heq⟩ | ⟨s, event, l, waiting, rest, he, heq⟩ :=
    tell_cases h
  · rw [heq]
  · rw [heq, due, due, DiagnosticsHub.untold, DiagnosticsHub.untold, he, List.filter_cons]
    split
    · rfl
    · rfl
  · rw [heq]
    by_cases hs : s = serial
    · subst hs
      simp [due, DiagnosticsHub.told, DiagnosticsHub.untold, he]
    · simp [due, DiagnosticsHub.told, DiagnosticsHub.untold, he, hs]

theorem due_run (hs : serial < h.nextSerial) (steps : List HubStep) :
    (h.run steps).due serial = h.due serial := by
  induction steps generalizing h with
  | nil => rfl
  | cons step steps ih =>
    rw [run_cons]
    cases step with
    | use call =>
      have hle : h.nextSerial ≤ (h.call call).nextSerial := by
        rw [nextSerial_call]
        split
        · exact Nat.le_succ _
        · exact Nat.le_refl _
      exact (ih (Nat.lt_of_lt_of_le hs hle)).trans (due_call hs call)
    | tell | fail =>
      have hs' : serial < h.tell.nextSerial := (nextSerial_tell h).symm ▸ hs
      exact (ih hs').trans (due_tell h serial)

theorem told_of_rest (hr : h.emissions = []) (serial : Nat) : h.told serial = h.due serial := by
  rw [due, DiagnosticsHub.untold, hr]
  exact (List.append_nil _).symm

theorem exists_change (steps : List HubStep) (hs : serial < (empty.run steps).nextSerial) :
    ∃ before call after, steps = before ++ .use call :: after ∧
      (empty.run before).changes call ∧ serial = (empty.run before).nextSerial := by
  refine run_induction (p := fun steps h => serial < h.nextSerial →
    ∃ before call after, steps = before ++ .use call :: after ∧
      (empty.run before).changes call ∧ serial = (empty.run before).nextSerial) nofun ?_ steps hs
  intro steps step ih hs
  have hold (hs : serial < (empty.run steps).nextSerial) :
      ∃ before call after, steps ++ [step] = before ++ .use call :: after ∧
        (empty.run before).changes call ∧ serial = (empty.run before).nextSerial := by
    obtain ⟨before, call, after, rfl, hc, heq⟩ := ih hs
    exact ⟨before, call, after ++ [step], by simp, hc, heq⟩
  cases step with
  | use call =>
    rw [DiagnosticsHub.step, nextSerial_call] at hs
    split at hs
    · rename_i hc
      obtain hs | rfl := Nat.lt_succ_iff_lt_or_eq.1 hs
      · exact hold hs
      · exact ⟨steps, call, [], rfl, hc, rfl⟩
    · exact hold hs
  | tell | fail => exact hold (nextSerial_tell _ ▸ hs)

theorem due_of_split (hc : (empty.run before).changes call) (hu : call.uri? = some uri)
    (after : List HubStep) :
    (empty.run (before ++ .use call :: after)).due (empty.run before).nextSerial =
      (empty.run before).notices call uri := by
  have hs : (empty.run before).nextSerial < ((empty.run before).call call).nextSerial := by
    rw [nextSerial_call, if_pos hc]
    exact Nat.lt_succ_self _
  rw [run_append, run_cons]
  exact (due_run hs after).trans (due_of_changes (numbered_run before) hc hu)

/-- A change of the store tells those who are registered when it is made, once each and in the order
of their subscription, of the record that it leaves, whatever is done by the listeners that are told
meanwhile or of other changes: they may fail, register and unregister, and change the store
themselves. Nothing else tells anyone anything. -/
theorem told_exactly (steps : List HubStep) :
    (∀ l, l ∈ (empty.run steps).listeners ↔
      ∃ before after, steps = before ++ .use .subscribe :: after ∧
        l = (empty.run before).nextListener ∧ .use (.unsubscribe l) ∉ after) ∧
    (empty.run steps).listeners.Pairwise (· < ·) ∧
    (∀ receipt ∈ (empty.run steps).received,
      ∃ before call after, steps = before ++ .use call :: after ∧
        (empty.run before).changes call ∧ receipt.serial = (empty.run before).nextSerial) ∧
    (∀ before call after, steps = before ++ .use call :: after →
      ∀ uri, (empty.run before).changes call → call.uri? = some uri →
        (empty.run before).due (empty.run before).nextSerial = [] ∧
        (empty.run steps).told (empty.run before).nextSerial ++
          (empty.run steps).untold (empty.run before).nextSerial =
            (empty.run before).notices call uri ∧
        ((empty.run steps).emissions = [] →
          (empty.run steps).told (empty.run before).nextSerial =
            (empty.run before).notices call uri) ∧
        (((empty.run before).call call).store.get? uri = none ↔
          ((empty.run before).call call).store.slices uri = [])) ∧
    (∀ uri client, (empty.run steps).changes (.clear uri client) = false →
      (empty.run steps).call (.clear uri client) = empty.run steps) ∧
    ∃ n, ((empty.run steps).run (List.replicate n .tell)).emissions = [] := by
  refine ⟨mem_listeners_run steps, (listeners_pairwise steps).1, ?_, ?_, ?_, rests _⟩
  · intro receipt hr
    exact exists_change steps ((numbered_run steps).received receipt hr)
  · rintro before call after rfl uri hc hu
    have hdue := due_of_split hc hu after
    have hfresh : (empty.run before).due (empty.run before).nextSerial = [] := by
      rw [due, (numbered_run before).told, (numbered_run before).untold]
      rfl
    have hnone := get?_eq_none_iff (before ++ [.use call]) uri
    rw [run_append] at hnone
    exact ⟨hfresh, hdue, fun hr => (told_of_rest hr _).trans hdue, hnone⟩
  · intro uri client hc
    exact call_clear_of_unchanged hc

/-- The first listener unregisters the second, registers a third and fails; the second still hears
of the report, and clears it, of which only the first and the third hear. -/
theorem told_exactly_nested :
    let before := [.use .subscribe, .use .subscribe]
    let steps := before ++ .use (.upsert "u" "a" [] none) ::
      [.tell, .use (.unsubscribe 1), .use .subscribe, .fail, .use (.clear "u" none), .tell, .tell,
        .tell, .tell]
    let h := empty.run steps
    h.emissions = [] ∧
      h.told 0 = [⟨0, 0, "u", some ⟨"u", [("a", [])], [], none⟩⟩,
        ⟨0, 1, "u", some ⟨"u", [("a", [])], [], none⟩⟩] ∧
      h.told 1 = [⟨1, 0, "u", none⟩, ⟨1, 2, "u", none⟩] ∧
      h.listeners = [0, 2] ∧ h.call (.clear "u" none) = h := by
  intro before steps h
  have hrest : h.emissions = [] := rfl
  obtain ⟨_, _, _, htold, hclear, _⟩ := told_exactly steps
  obtain ⟨_, _, hreport, _⟩ := htold before _ _ rfl "u" rfl rfl
  obtain ⟨_, _, hcleared, _⟩ :=
    htold (before ++ [.use (.upsert "u" "a" [] none), .tell, .use (.unsubscribe 1),
      .use .subscribe, .fail]) (.clear "u" none) [.tell, .tell, .tell, .tell] rfl "u" rfl rfl
  exact ⟨hrest, (hreport hrest).trans rfl, (hcleared hrest).trans rfl, rfl, hclear "u" none rfl⟩

end DiagnosticsHub
end Switchyard
