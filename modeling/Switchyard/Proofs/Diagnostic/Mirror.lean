import Switchyard.Proofs.Diagnostic.Receipts

namespace Switchyard

namespace DiagnosticsHub

variable {h : DiagnosticsHub} {call : HubCall} {uri : String} {l : Nat}
  {steps before after : List HubStep}

/-- What is on its way to a listener on a document, what arrives first first. -/
def coming (h : DiagnosticsHub) (l : Nat) (uri : String) : List Receipt :=
  (h.emissions.filter fun e => e.event.uri == uri && e.waiting.contains l).map fun e =>
    ⟨e.serial, l, e.event⟩

def lastTold? (h : DiagnosticsHub) (l : Nat) (uri : String) : Option Receipt :=
  h.received.find? fun r => r.listener == l && r.event.uri == uri

/-- What a listener will have received last on a document if nobody changes the document again. -/
def final? (h : DiagnosticsHub) (l : Nat) (uri : String) : Option Receipt :=
  (h.coming l uri).getLast?.or (h.lastTold? l uri)

theorem waiting_nodup (steps : List HubStep) :
    ∀ e ∈ (empty.run steps).emissions, e.waiting.Nodup := by
  refine run_induction (p := fun _ h => ∀ e ∈ h.emissions, e.waiting.Nodup) nofun ?_ steps
  intro steps step ih
  have htell : ∀ e ∈ (empty.run steps).tell.emissions, e.waiting.Nodup := by
    obtain ⟨_, heq⟩ | ⟨serial, event, rest, he, heq⟩ |
      ⟨serial, event, l, waiting, rest, he, heq⟩ := tell_cases (empty.run steps)
    · rwa [heq]
    · rw [he] at ih
      rw [heq]
      exact fun e hm => ih e (List.mem_cons_of_mem _ hm)
    · rw [he] at ih
      rw [heq]
      intro e hm
      obtain rfl | hm := List.mem_cons.1 hm
      · exact (List.nodup_cons.1 (ih _ List.mem_cons_self)).2
      · exact ih e (List.mem_cons_of_mem _ hm)
  cases step with
  | use call =>
    rw [DiagnosticsHub.step]
    by_cases hc : (empty.run steps).changes call
    · obtain ⟨uri, hu⟩ := uri_of_changes hc
      rw [call_of_changes hc hu]
      intro e hm
      obtain rfl | hm := List.mem_cons.1 hm
      · exact (listeners_pairwise steps).1.imp Nat.ne_of_lt
      · exact ih e hm
    · rwa [call_of_unchanged (Bool.eq_false_iff.2 hc)]
  | tell | fail => exact htell

theorem final?_of_changes (hc : h.changes call) (hu : call.uri? = some uri)
    (hl : l ∈ h.listeners) :
    (h.call call).final? l uri = some ((h.coming l uri).getLast?.getD
      ⟨h.nextSerial, l, uri, (h.call call).store.get? uri⟩) := by
  have hcoming : (h.call call).coming l uri =
      ⟨h.nextSerial, l, uri, (h.call call).store.get? uri⟩ :: h.coming l uri := by
    conv_lhs => rw [call_of_changes hc hu]
    simp [coming, emit, hl]
  rw [final?, hcoming, List.getLast?_cons, Option.some_or]

theorem final?_call (hn : call.uri? = some uri → h.changes call = false) (l : Nat) :
    (h.call call).final? l uri = h.final? l uri := by
  by_cases hc : h.changes call
  · obtain ⟨uri', hu⟩ := uri_of_changes hc
    have hne : uri' ≠ uri := by
      rintro rfl
      rw [hn hu] at hc
      cases hc
    rw [call_of_changes hc hu]
    simp [final?, coming, lastTold?, emit, hne]
  · rw [call_of_unchanged (Bool.eq_false_iff.2 hc)]
    rfl

theorem final?_tell (hn : ∀ e ∈ h.emissions, e.waiting.Nodup) (l : Nat) (uri : String) :
    h.tell.final? l uri = h.final? l uri := by
  obtain ⟨_, heq⟩ | ⟨serial, event, rest, he, heq⟩ |
    ⟨serial, event, l', waiting, rest, he, heq⟩ := tell_cases h
  · rw [heq]
  · rw [heq]
    simp [final?, coming, lastTold?, he]
  · have hw : l' ∉ waiting := by
      rw [he] at hn
      exact (List.nodup_cons.1 (hn _ List.mem_cons_self)).1
    rw [heq]
    by_cases hmine : l' = l ∧ event.uri = uri
    · obtain ⟨rfl, rfl⟩ := hmine
      simp [final?, coming, lastTold?, he, hw, List.getLast?_cons]
    · have hother : (l' == l && event.uri == uri) = false := by
        simpa using hmine
      have hsame : (event.uri == uri && (l' :: waiting).contains l) =
          (event.uri == uri && waiting.contains l) := by
        by_cases hu : event.uri = uri
        · have hne : l ≠ l' := fun heq => hmine ⟨heq.symm, hu⟩
          rw [List.contains_cons, beq_false_of_ne hne, Bool.false_or]
        · rw [beq_false_of_ne hu, Bool.false_and, Bool.false_and]
      simp only [final?, coming, lastTold?, he, List.filter_cons, hsame, List.find?_cons, hother]
      split <;> rfl

theorem lastTold?_of_rest (hr : h.emissions = []) (l : Nat) (uri : String) :
    h.lastTold? l uri = h.final? l uri := by
  rw [final?, coming, hr]
  rfl

def alters (h : DiagnosticsHub) (uri : String) : HubStep → Bool
  | .use call => call.uri? == some uri && h.changes call
  | .tell | .fail => false

/-- A run whose last change of a document is made after some of its steps. -/
structure LastChange (uri : String) (before : List HubStep) (call : HubCall)
    (after : List HubStep) : Prop where
  changes : (empty.run before).changes call
  document : call.uri? = some uri
  last : ∀ middle step rest, after = middle ++ step :: rest →
    (empty.run (before ++ .use call :: middle)).alters uri step = false

/-- A listener that subscribes before the first change and is never unsubscribed. -/
def Follows (l : Nat) (steps : List HubStep) : Prop :=
  ∃ first rest, steps = first ++ .use .subscribe :: rest ∧ l = (empty.run first).nextListener ∧
    (∀ before call after, first = before ++ .use call :: after →
      (empty.run before).changes call = false) ∧
    .use (.unsubscribe l) ∉ rest

theorem Follows.mem (hl : Follows l (before ++ .use call :: after))
    (hc : (empty.run before).changes call) : l ∈ (empty.run before).listeners := by
  obtain ⟨first, rest, heq, rfl, hfirst, hrest⟩ := hl
  obtain ⟨between, rfl, htail⟩ | ⟨between, rfl, htail⟩ := List.append_eq_append_iff.1 heq
  · cases between with
    | nil =>
      cases htail
      cases hc
    | cons step between =>
      cases htail
      rw [hfirst before call between rfl] at hc
      cases hc
  · cases between with
    | nil =>
      cases htail
      rw [List.append_nil] at hc
      cases hc
    | cons step between =>
      cases htail
      rw [mem_listeners_run]
      exact ⟨first, between, rfl, rfl, fun hm => hrest (List.mem_append_left _ hm)⟩

/-- A step that does not change a document leaves its record, and what comes last on it. -/
theorem step_of_unaltered {step : HubStep}
    (hn : (empty.run steps).alters uri step = false) (l : Nat) :
    (empty.run (steps ++ [step])).final? l uri = (empty.run steps).final? l uri ∧
      (empty.run (steps ++ [step])).store.get? uri = (empty.run steps).store.get? uri := by
  rw [run_append]
  cases step with
  | use call =>
    have hcall : call.uri? = some uri → (empty.run steps).changes call = false := by
      intro hu
      simpa [alters, hu] using hn
    refine ⟨final?_call hcall l, ?_⟩
    change ((empty.run steps).call call).store.get? uri = (empty.run steps).store.get? uri
    by_cases hu : call.uri? = some uri
    · rw [call_of_unchanged (hcall hu)]
    · exact get?_call_of_ne hu
  | tell | fail =>
    exact ⟨final?_tell (waiting_nodup steps) l uri, congrArg (·.get? uri) (store_tell _)⟩

theorem LastChange.settled (hc : LastChange uri before call after)
    (hl : l ∈ (empty.run before).listeners) :
    (empty.run (before ++ .use call :: after)).final? l uri =
      some (((empty.run before).coming l uri).getLast?.getD
        ⟨(empty.run before).nextSerial, l, uri,
          (empty.run (before ++ .use call :: after)).store.get? uri⟩) := by
  induction after using List.reverseRecOn with
  | nil =>
    rw [run_append]
    exact final?_of_changes hc.changes hc.document hl
  | append_singleton after step ih =>
    have hinit : LastChange uri before call after := by
      refine ⟨hc.changes, hc.document, ?_⟩
      rintro middle step' rest rfl
      exact hc.last middle step' (rest ++ [step]) (by simp)
    have hstep := step_of_unaltered (hc.last after step [] rfl) l
    have hassoc : before ++ .use call :: (after ++ [step]) =
        (before ++ .use call :: after) ++ [step] := by simp
    rw [hassoc, hstep.1, hstep.2]
    exact ih hinit

theorem exists_lastChange (hm : ∃ before call after, steps = before ++ .use call :: after ∧
      (empty.run before).changes call ∧ call.uri? = some uri) :
    ∃ before call after, steps = before ++ .use call :: after ∧
      LastChange uri before call after := by
  induction steps using List.reverseRecOn with
  | nil =>
    obtain ⟨before, call, after, heq, _⟩ := hm
    cases before <;> cases heq
  | append_singleton steps step ih =>
    cases ha : (empty.run steps).alters uri step with
    | true =>
      cases step with
      | use call =>
        obtain ⟨hu, hc⟩ := Bool.and_eq_true_iff.1 ha
        refine ⟨steps, call, [], rfl, hc, beq_iff_eq.1 hu, ?_⟩
        rintro middle step rest heq
        cases middle <;> cases heq
      | tell | fail => cases ha
    | false =>
      obtain ⟨before, call, after, heq, hc, hu⟩ := hm
      obtain ⟨rfl, rfl, rfl⟩ | ⟨after, rfl, rfl⟩ := split_concat.1 heq
      · simp [alters, hu, hc] at ha
      · obtain ⟨before, call, after, hsame, hlast⟩ := ih ⟨before, call, after, rfl, hc, hu⟩
        refine ⟨before, call, after ++ [step], by rw [hsame]; simp, hlast.changes,
          hlast.document, ?_⟩
        intro middle step' rest hmiddle
        obtain ⟨rfl, rfl, rfl⟩ | ⟨rest, rfl, rfl⟩ := split_concat.1 hmiddle
        · rwa [hsame] at ha
        · exact hlast.last middle step' rest rfl

/-- In the end a listener that has been there from the start has last heard of a document what the
store has, unless an earlier event on it was still on its way to the listener when it was last
changed. What it has last heard then is the outermost of the events that were. -/
theorem mirrored (hl : Follows l steps) (hr : (empty.run steps).emissions = [])
    (hm : ∃ before call after, steps = before ++ .use call :: after ∧
      (empty.run before).changes call ∧ call.uri? = some uri) :
    (∃ before call after, steps = before ++ .use call :: after ∧
      LastChange uri before call after) ∧
    ∀ before call after, steps = before ++ .use call :: after →
      LastChange uri before call after →
      ((empty.run before).coming l uri = [] →
        ((empty.run steps).lastTold? l uri).map (·.event) =
          some ⟨uri, (empty.run steps).store.get? uri⟩) ∧
      (empty.run steps).lastTold? l uri =
        some (((empty.run before).coming l uri).getLast?.getD
          ⟨(empty.run before).nextSerial, l, uri, (empty.run steps).store.get? uri⟩) := by
  refine ⟨exists_lastChange hm, ?_⟩
  rintro before call after rfl hc
  have hlast := hc.settled (hl.mem hc.changes)
  rw [← lastTold?_of_rest hr] at hlast
  refine ⟨?_, hlast⟩
  intro hnone
  rw [hlast, hnone]
  rfl

/-- A listener that clears each document it hears of at once; the one before it has heard of the
clear last. -/
theorem mirrored_clear :
    let before := [.use .subscribe, .use .subscribe, .use (.upsert "u" "a" [] none), .tell, .tell]
    let steps := before ++ .use (.clear "u" none) :: [.tell, .tell, .tell, .tell]
    let h := empty.run steps
    (h.lastTold? 0 "u").map (·.event) = some ⟨"u", h.store.get? "u"⟩ ∧ h.store.get? "u" = none := by
  intro before steps h
  have hfollows : Follows 0 steps := by
    refine ⟨[], _, rfl, rfl, ?_, by decide⟩
    intro before call after heq
    cases before <;> cases heq
  have hlast : LastChange "u" before (.clear "u" none) [.tell, .tell, .tell, .tell] := by
    refine ⟨rfl, rfl, ?_⟩
    intro middle step rest heq
    have hmem : step ∈ [HubStep.tell, .tell, .tell, .tell] := by
      rw [heq]
      simp
    have hstep : step = .tell := by simpa using hmem
    rw [hstep]
    rfl
  obtain ⟨_, hmirror⟩ := mirrored hfollows rfl ⟨before, _, _, rfl, hlast.changes, hlast.document⟩
  exact ⟨(hmirror before _ _ rfl hlast).1 rfl, rfl⟩

/-- A listener that clears each document it hears of at once; the one after it hears of the clear
first, and last of the record that is gone. -/
theorem not_always_mirrored :
    ¬ ∀ (steps : List HubStep) (l : Nat) (uri : String), Follows l steps →
      (empty.run steps).emissions = [] →
      (∃ before call after, steps = before ++ .use call :: after ∧
        (empty.run before).changes call ∧ call.uri? = some uri) →
      ((empty.run steps).lastTold? l uri).map (·.event) =
        some ⟨uri, (empty.run steps).store.get? uri⟩ := by
  intro hall
  let steps : List HubStep := [.use .subscribe, .use .subscribe,
    .use (.upsert "u" "a" [] none), .tell, .use (.clear "u" none), .tell, .tell, .tell, .tell,
    .tell]
  have hfollows : Follows 1 steps := by
    refine ⟨[.use .subscribe], _, rfl, rfl, ?_, by decide⟩
    intro before call after heq
    cases before with
    | nil =>
      cases heq
      rfl
    | cons step before => cases before <;> cases heq
  have hlast := hall steps 1 "u" hfollows rfl
    ⟨[.use .subscribe, .use .subscribe], _, _, rfl, rfl, rfl⟩
  have htold : (empty.run steps).lastTold? 1 "u" =
      some ⟨0, 1, "u", some ⟨"u", [("a", [])], [], none⟩⟩ := rfl
  have hgone : (empty.run steps).store.get? "u" = none := rfl
  rw [htold, hgone] at hlast
  cases hlast

end DiagnosticsHub
end Switchyard
