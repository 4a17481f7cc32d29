import Mathlib.Logic.Relation
import Switchyard.Proofs.Path.Components

namespace Switchyard.Path

/-- One small change to the spelling of a path, each towards the shorter one. -/
inductive Respelling : Path → Path → Prop where
  | separator (a b : List UInt8) : Respelling ⟨a ++ slash :: slash :: b⟩ ⟨a ++ slash :: b⟩
  | innerDot (a b : List UInt8) : Respelling ⟨a ++ slash :: dot :: slash :: b⟩ ⟨a ++ slash :: b⟩
  | lastDot (a : List UInt8) : Respelling ⟨a ++ [slash, dot]⟩ ⟨a ++ [slash]⟩
  /-- A separator at the end goes, unless it is the whole path. -/
  | lastSeparator {a : List UInt8} (ha : a ≠ []) : Respelling ⟨a ++ [slash]⟩ ⟨a⟩

/-- Spellings that small changes, made or taken back, lead from one to the other. -/
def Respelled : Path → Path → Prop := Relation.EqvGen Respelling

variable {p q : Path} {a : List UInt8}

theorem components_tail {b b' : List UInt8}
    (h : innerComponents (segments b) = innerComponents (segments b')) (a : List UInt8) :
    (⟨a ++ slash :: b⟩ : Path).components = (⟨a ++ slash :: b'⟩ : Path).components := by
  by_cases ha : a = []
  · subst ha
    rw [List.nil_append, List.nil_append, components_slash, components_slash, h]
  · rw [components_append ha, components_append ha, h]

theorem Respelling.components_eq (h : Respelling p q) : p.components = q.components := by
  cases h with
  | separator a b => exact @components_tail (slash :: b) b rfl a
  | innerDot a b => exact @components_tail (dot :: slash :: b) b rfl a
  | lastDot a => exact @components_tail [dot] [] rfl a
  | lastSeparator ha => exact (components_append ha []).trans (List.append_nil _)

theorem Respelled.components_eq (h : Respelled p q) : p.components = q.components := by
  induction h with
  | rel _ _ h => exact h.components_eq
  | refl => rfl
  | symm _ _ _ ih => exact ih.symm
  | trans _ _ _ _ _ ih₁ ih₂ => exact ih₁.trans ih₂

def spelling : List Component → List UInt8
  | [] => []
  | [.root] => [slash]
  | .root :: cs => below (cs.map Component.bytes)
  | c :: cs => c.bytes ++ below (cs.map Component.bytes)

theorem spelling_cons {c : Component} (hc : c ≠ .root) (cs : List Component) :
    spelling (c :: cs) = c.bytes ++ below (cs.map Component.bytes) := by
  cases c with
  | root => exact absurd rfl hc
  | here => rfl
  | up => rfl
  | named name => rfl

@[elab_as_elim]
theorem segment_induction {motive : List UInt8 → Prop} (last : ∀ s, slash ∉ s → motive s)
    (more : ∀ s rest, slash ∉ s → motive rest → motive (s ++ slash :: rest))
    (bytes : List UInt8) : motive bytes := by
  induction hn : bytes.length using Nat.strongRecOn generalizing bytes with
  | ind n ih =>
    subst hn
    by_cases h : slash ∈ bytes
    · obtain ⟨s, rest, rfl, hs⟩ := List.eq_append_cons_of_mem h
      exact more s rest hs (ih rest.length (by simp; omega) rest rfl)
    · exact last bytes h

/-- What follows a slash is respelled with single separators and without `.`, segment by segment
from the left: one that is no component goes, and another one joins what stands before the rest. -/
theorem respelled_tail (ha : a ≠ []) (bytes : List UInt8) :
    Respelled ⟨a ++ slash :: bytes⟩
      ⟨a ++ below ((innerComponents (segments bytes)).map Component.bytes)⟩ := by
  induction bytes using segment_induction generalizing a with
  | last s hs =>
    have hone (x : List UInt8) : a ++ below [x] = a ++ slash :: x := by simp [below]
    have hnone : a ++ below [] = a := List.append_nil a
    have hlast := Relation.EqvGen.rel _ _ (Respelling.lastSeparator ha)
    rw [segments_of_no_slash hs]
    obtain ⟨rfl | rfl, heq⟩ | ⟨rfl, heq⟩ | ⟨_, _, _, heq⟩ := innerComponents_cons s []
    · rw [heq, innerComponents, List.map_nil, hnone]
      exact hlast
    · rw [heq, innerComponents, List.map_nil, hnone]
      exact .trans _ _ _ (.rel _ _ (.lastDot a)) hlast
    · exact .refl _
    · rw [heq, innerComponents, List.map_singleton, hone]
      exact .refl _
  | more s rest hs ih =>
    have hjoin (x : List UInt8) (xs : List (List UInt8)) :
        a ++ below (x :: xs) = a ++ slash :: x ++ below xs := by simp [below]
    have hsplit : a ++ slash :: (s ++ slash :: rest) = a ++ slash :: s ++ slash :: rest := by simp
    have hne : a ++ slash :: s ≠ [] := by simp
    rw [segments_append, segments_of_no_slash hs, List.singleton_append]
    obtain ⟨rfl | rfl, heq⟩ | ⟨rfl, heq⟩ | ⟨_, _, _, heq⟩ := innerComponents_cons s (segments rest)
    · rw [heq]
      exact .trans _ _ _ (.rel _ _ (.separator a rest)) (ih ha)
    · rw [heq]
      exact .trans _ _ _ (.rel _ _ (.innerDot a rest)) (ih ha)
    · rw [heq, List.map_cons, hjoin, hsplit]
      exact ih hne
    · rw [heq, List.map_cons, hjoin, hsplit]
      exact ih hne

theorem respelled_root (bytes : List UInt8) :
    Respelled ⟨slash :: bytes⟩ ⟨spelling (.root :: innerComponents (segments bytes))⟩ := by
  induction bytes using segment_induction with
  | last s hs =>
    rw [segments_of_no_slash hs]
    obtain ⟨rfl | rfl, heq⟩ | ⟨rfl, heq⟩ | ⟨_, _, _, heq⟩ := innerComponents_cons s []
    · exact .refl _
    · exact .rel _ _ (.lastDot [])
    · exact .refl _
    · have hone : spelling [.root, .named s] = slash :: s := List.append_nil _
      rw [heq, innerComponents, hone]
      exact .refl _
  | more s rest hs ih =>
    have hne : slash :: s ≠ [] := List.cons_ne_nil _ _
    rw [segments_append, segments_of_no_slash hs, List.singleton_append]
    obtain ⟨rfl | rfl, heq⟩ | ⟨rfl, heq⟩ | ⟨_, _, _, heq⟩ := innerComponents_cons s (segments rest)
    · rw [heq]
      exact .trans _ _ _ (.rel _ _ (.separator [] rest)) ih
    · rw [heq]
      exact .trans _ _ _ (.rel _ _ (.innerDot [] rest)) ih
    · rw [heq]
      exact respelled_tail hne rest
    · rw [heq]
      exact respelled_tail hne rest

/-- The first segment of a path that does not start at the root is a component, also as a `.`. -/
theorem components_segment {s : List UInt8} (hne : s ≠ []) (hs : slash ∉ s) :
    ∃ c, c ≠ .root ∧ c.bytes = s ∧ (⟨s⟩ : Path).components = [c] := by
  unfold components
  rw [segments_of_no_slash hs]
  dsimp only
  rw [if_neg (by simpa using hne)]
  by_cases hdot : s = [dot]
  · subst hdot
    exact ⟨.here, nofun, rfl, rfl⟩
  rw [if_neg (by simpa using hdot)]
  obtain ⟨h | h, _⟩ | ⟨rfl, heq⟩ | ⟨_, _, _, heq⟩ := innerComponents_cons s []
  · exact absurd h hne
  · exact absurd h hdot
  · exact ⟨.up, nofun, rfl, heq⟩
  · exact ⟨.named s, nofun, rfl, heq⟩

theorem respelled_spelling (p : Path) : Respelled p ⟨spelling p.components⟩ := by
  obtain ⟨bytes⟩ := p
  induction bytes using segment_induction with
  | last s hs =>
    by_cases hne : s = []
    · subst hne
      exact .refl _
    · obtain ⟨c, hc, rfl, heq⟩ := components_segment hne hs
      rw [heq, spelling_cons hc, List.map_nil, below, List.flatMap_nil, List.append_nil]
      exact .refl _
  | more s rest hs _ =>
    by_cases hne : s = []
    · subst hne
      rw [List.nil_append, components_slash]
      exact respelled_root rest
    · obtain ⟨c, hc, rfl, heq⟩ := components_segment hne hs
      rw [components_append hne, heq, List.singleton_append, spelling_cons hc]
      exact respelled_tail hne rest

/-- Paths have the same components exactly if they are spellings of each other. -/
theorem respelled_iff : Respelled p q ↔ p.components = q.components := by
  constructor
  · exact Respelled.components_eq
  · intro h
    have hq := respelled_spelling q
    rw [← h] at hq
    exact .trans _ _ _ (respelled_spelling p) (.symm _ _ hq)

end Switchyard.Path
