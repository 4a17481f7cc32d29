import Mathlib.Data.List.Induction
import Switchyard.Diagnostic.Listener
import Switchyard.Proofs.Diagnostic.Store

namespace Switchyard

inductive HubStep where
  /-- The listener that runs uses the hub, or a caller does while none runs. -/
  | use (call : HubCall)
  /-- The listener that runs has returned: the innermost emission goes on to its next listener, or
  ends. -/
  | tell
  /-- The listener that runs has failed. The failure is caught, and the emission goes on. -/
  | fail
  deriving DecidableEq, Inhabited

namespace DiagnosticsHub

variable {h h' : DiagnosticsHub}

def tell (h : DiagnosticsHub) : DiagnosticsHub :=
  match h.advance with
  | some (h', _) => h'
  | none => h

def step (h : DiagnosticsHub) : HubStep → DiagnosticsHub
  | .use call => h.call call
  | .tell | .fail => h.tell

def run (h : DiagnosticsHub) (steps : List HubStep) : DiagnosticsHub := steps.foldl step h

theorem run_append (h : DiagnosticsHub) (first second : List HubStep) :
    h.run (first ++ second) = (h.run first).run second :=
  List.foldl_append

theorem run_cons (h : DiagnosticsHub) (step : HubStep) (steps : List HubStep) :
    h.run (step :: steps) = (h.step step).run steps := rfl

theorem run_induction {p : List HubStep → DiagnosticsHub → Prop} (start : p [] empty)
    (step : ∀ steps step, p steps (empty.run steps) →
      p (steps ++ [step]) ((empty.run steps).step step)) (steps : List HubStep) :
    p steps (empty.run steps) := by
  induction steps using List.reverseRecOn with
  | nil => exact start
  | append_singleton steps s ih =>
    rw [run_append]
    exact step steps s ih

theorem tell_of_advance {receipt : Option Receipt} (ha : h.advance = some (h', receipt)) :
    h.tell = h' := by
  rw [tell, ha]

/-- What a delivery does: nothing if no emission is under way, else the innermost emission ends or
tells its next listener. -/
theorem tell_cases (h : DiagnosticsHub) :
    (h.emissions = [] ∧ h.tell = h) ∨
      (∃ serial event rest, h.emissions = ⟨serial, event, []⟩ :: rest ∧
        h.tell = { h with emissions := rest }) ∨
      ∃ serial event listener waiting rest,
        h.emissions = ⟨serial, event, listener :: waiting⟩ :: rest ∧
          h.tell = { h with
            emissions := ⟨serial, event, waiting⟩ :: rest
            received := ⟨serial, listener, event⟩ :: h.received } := by
  unfold tell advance
  split
  · rename_i heq
    split at heq
    · cases heq
    · rename_i serial event rest he
      cases heq
      exact .inr (.inl ⟨serial, event, rest, he, rfl⟩)
    · rename_i serial event listener waiting rest he
      cases heq
      exact .inr (.inr ⟨serial, event, listener, waiting, rest, he, rfl⟩)
  · rename_i heq
    split at heq
    · rename_i he
      exact .inl ⟨he, rfl⟩
    · cases heq
    · cases heq

@[simp] theorem store_tell (h : DiagnosticsHub) : h.tell.store = h.store := by
  obtain ⟨_, heq⟩ | ⟨_, _, _, _, heq⟩ | ⟨_, _, _, _, _, _, heq⟩ := tell_cases h <;> rw [heq]

@[simp] theorem listeners_tell (h : DiagnosticsHub) : h.tell.listeners = h.listeners := by
  obtain ⟨_, heq⟩ | ⟨_, _, _, _, heq⟩ | ⟨_, _, _, _, _, _, heq⟩ := tell_cases h <;> rw [heq]

@[simp] theorem nextListener_tell (h : DiagnosticsHub) :
    h.tell.nextListener = h.nextListener := by
  obtain ⟨_, heq⟩ | ⟨_, _, _, _, heq⟩ | ⟨_, _, _, _, _, _, heq⟩ := tell_cases h <;> rw [heq]

@[simp] theorem nextSerial_tell (h : DiagnosticsHub) : h.tell.nextSerial = h.nextSerial := by
  obtain ⟨_, heq⟩ | ⟨_, _, _, _, heq⟩ | ⟨_, _, _, _, _, _, heq⟩ := tell_cases h <;> rw [heq]

theorem rests (h : DiagnosticsHub) : ∃ n, (h.run (List.replicate n .tell)).emissions = [] := by
  induction h using settle.induct with
  | case1 h hn =>
    refine ⟨0, ?_⟩
    unfold advance at hn
    split at hn
    · assumption
    · cases hn
    · cases hn
  | case2 h h' receipt hs ih =>
    obtain ⟨n, hrest⟩ := ih
    refine ⟨n + 1, ?_⟩
    rwa [List.replicate_succ, run_cons, step, tell_of_advance hs]

end DiagnosticsHub
end Switchyard
