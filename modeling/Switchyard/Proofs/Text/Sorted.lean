import Mathlib.Data.List.Basic
import Switchyard.Text.Sorted

namespace Switchyard.Text

variable {s t : String} {ss ss' : List String}

theorem mem_insertSorted : s ∈ insertSorted t ss ↔ s = t ∨ s ∈ ss := by
  induction ss with
  | nil => exact List.mem_singleton.trans (or_iff_left nofun).symm
  | cons u ss ih =>
    unfold insertSorted
    split
    · exact List.mem_cons
    · split
      · rename_i h
        rw [h, List.mem_cons, or_self_left]
      · rw [List.mem_cons, ih, List.mem_cons, or_left_comm]

theorem mem_sortedSet : s ∈ sortedSet ss ↔ s ∈ ss := by
  induction ss with
  | nil => exact Iff.rfl
  | cons t ss ih =>
    have hcons : sortedSet (t :: ss) = insertSorted t (sortedSet ss) := rfl
    rw [hcons, mem_insertSorted, ih, List.mem_cons]

theorem pairwise_insertSorted (h : ss.Pairwise (· < ·)) :
    (insertSorted t ss).Pairwise (· < ·) := by
  induction ss with
  | nil => exact List.pairwise_singleton _ t
  | cons u ss ih =>
    obtain ⟨hu, hss⟩ := List.pairwise_cons.1 h
    unfold insertSorted
    split
    · rename_i htu
      refine List.pairwise_cons.2 ⟨fun v hv => ?_, h⟩
      obtain rfl | hv := List.mem_cons.1 hv
      · exact htu
      · exact String.lt_trans htu (hu v hv)
    · rename_i htu
      split
      · exact h
      · rename_i hne
        have hut : u < t := by
          refine String.not_le.1 fun hle => hne (String.le_antisymm hle ?_)
          exact String.not_lt.1 htu
        refine List.pairwise_cons.2 ⟨fun v hv => ?_, ih hss⟩
        obtain rfl | hv := mem_insertSorted.1 hv
        · exact hut
        · exact hu v hv

theorem pairwise_sortedSet (ss : List String) : (sortedSet ss).Pairwise (· < ·) := by
  induction ss with
  | nil => exact .nil
  | cons t ss ih => exact pairwise_insertSorted ih

theorem sortedSet_congr (h : ∀ s, s ∈ ss ↔ s ∈ ss') : sortedSet ss = sortedSet ss' := by
  have hdup (l : List String) : (sortedSet l).Nodup :=
    (pairwise_sortedSet l).imp fun hlt => String.ne_of_lt hlt
  refine List.Perm.eq_of_pairwise (fun s t _ _ hst hts => ?_) (pairwise_sortedSet ss)
    (pairwise_sortedSet ss') ?_
  · exact absurd (String.lt_trans hst hts) (String.lt_irrefl s)
  · rw [List.perm_ext_iff_of_nodup (hdup ss) (hdup ss')]
    intro s
    rw [mem_sortedSet, mem_sortedSet, h]

end Switchyard.Text
