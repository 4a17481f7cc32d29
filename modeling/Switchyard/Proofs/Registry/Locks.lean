import Mathlib.Data.List.Nodup
import Switchyard.Proofs.Positions
import Switchyard.Registry.Lock

namespace Switchyard

namespace DocumentLocks

variable {x : DocumentLocks} {t l : Nat} {uri uri' : String}

/-- The tasks that want the lock of a document, in the order in which they get it. -/
def wanting (x : DocumentLocks) (uri : String) : List Nat := (x.lock? uri).elim [] x.queue

/-- The lock whose queue a task joins that asks for the lock of a document. -/
def joined (x : DocumentLocks) (uri : String) : Nat := (x.lock? uri).getD x.queues.length

/-- No two documents share a lock, nobody wants a lock that is not that of a document, and nobody
wants more than one. -/
structure WellFormed (x : DocumentLocks) : Prop where
  known {uri : String} {l : Nat} : x.lock? uri = some l → l < x.queues.length
  own {uri uri' : String} {l : Nat} : x.lock? uri = some l → x.lock? uri' = some l → uri = uri'
  used {t l : Nat} : t ∈ x.queue l → ∃ uri, x.lock? uri = some l
  once (l : Nat) : (x.queue l).Nodup
  apart {t l l' : Nat} : t ∈ x.queue l → t ∈ x.queue l' → l = l'

theorem wanting_of_lock? (h : x.lock? uri = some l) : x.wanting uri = x.queue l := by
  rw [wanting, h, Option.elim_some]

theorem wanting_of_none (h : x.lock? uri = none) : x.wanting uri = [] := by
  rw [wanting, h, Option.elim_none]

theorem mem_wanting : t ∈ x.wanting uri ↔ ∃ l, x.lock? uri = some l ∧ t ∈ x.queue l := by
  cases h : x.lock? uri with
  | none => simp [wanting_of_none h]
  | some l => simp [wanting_of_lock? h]

theorem request_of_lock? (h : x.lock? uri = some l) (t : Nat) :
    x.request t uri = { x with queues := x.queues.modify l (· ++ [t]) } := by
  rw [request, h]

theorem request_of_none (h : x.lock? uri = none) (t : Nat) :
    x.request t uri = ⟨(uri, x.queues.length) :: x.table, x.queues ++ [[t]]⟩ := by
  rw [request, h]

theorem lock?_request (x : DocumentLocks) (t : Nat) (uri uri' : String) :
    (x.request t uri).lock? uri' = if uri' = uri then some (x.joined uri) else x.lock? uri' := by
  unfold joined
  cases h : x.lock? uri with
  | some l =>
    rw [request_of_lock? h]
    split
    · rename_i heq
      rw [heq]
      exact h
    · rfl
  | none =>
    rw [request_of_none h, lock?, List.lookup_cons]
    by_cases heq : uri' = uri
    · simp [heq]
    · rw [beq_false_of_ne heq, if_neg heq]
      rfl

theorem length_request (x : DocumentLocks) (t : Nat) (uri : String) :
    x.queues.length ≤ (x.request t uri).queues.length := by
  cases h : x.lock? uri with
  | some l => simp [request_of_lock? h]
  | none => simp [request_of_none h]

theorem queue_release (x : DocumentLocks) (t l : Nat) :
    (x.release t).queue l =
      if (x.queue l).head? = some t then (x.queue l).drop 1 else x.queue l := by
  simp only [release, queue, List.getElem?_map]
  obtain h | ⟨q, h⟩ := Option.eq_none_or_eq_some x.queues[l]?
  · simp [h]
  · simp [h]

theorem lock?_drop (x : DocumentLocks) (uri uri' : String) :
    (x.drop uri).lock? uri' =
      if uri' = uri ∧ x.wanting uri = [] then none else x.lock? uri' := by
  unfold drop
  cases h : x.lock? uri with
  | none =>
    by_cases heq : uri' = uri
    · subst heq
      simp [wanting_of_none h, h]
    · rw [if_neg fun hc => heq hc.1]
  | some l =>
    rw [wanting_of_lock? h]
    by_cases hq : x.queue l = []
    · simp only [hq, List.isEmpty_nil, if_true, and_true]
      exact lookup_filter_bne x.table uri uri'
    · rw [if_neg fun hc => hq hc.2]
      simp [hq]

@[simp] theorem queue_drop (x : DocumentLocks) (uri : String) (l : Nat) :
    (x.drop uri).queue l = x.queue l := by
  unfold drop
  split
  · split <;> rfl
  · rfl

@[simp] theorem length_drop (x : DocumentLocks) (uri : String) :
    (x.drop uri).queues.length = x.queues.length := by
  unfold drop
  split
  · split <;> rfl
  · rfl

theorem wanting_release (x : DocumentLocks) (t : Nat) (uri : String) :
    (x.release t).wanting uri =
      if (x.wanting uri).head? = some t then (x.wanting uri).drop 1 else x.wanting uri := by
  cases h : x.lock? uri with
  | none =>
    have h' : (x.release t).lock? uri = none := h
    rw [wanting_of_none h, wanting_of_none h', if_neg nofun]
  | some l =>
    have h' : (x.release t).lock? uri = some l := h
    rw [wanting_of_lock? h, wanting_of_lock? h', queue_release]

@[simp] theorem wanting_drop (x : DocumentLocks) (uri uri' : String) :
    (x.drop uri).wanting uri' = x.wanting uri' := by
  have hl := lock?_drop x uri uri'
  split at hl
  · rename_i hc
    rw [wanting_of_none hl, hc.1, hc.2]
  · rw [wanting, hl, wanting]
    cases x.lock? uri' with
    | none => rfl
    | some l => exact queue_drop x uri l

theorem queue_joined (x : DocumentLocks) (uri : String) :
    x.queue (x.joined uri) = x.wanting uri := by
  unfold joined
  cases h : x.lock? uri with
  | some l => rw [Option.getD_some, wanting_of_lock? h]
  | none => rw [Option.getD_none, wanting_of_none h, queue, List.getElem?_length, Option.getD_none]

namespace WellFormed

theorem joined_lt (hw : x.WellFormed) (t : Nat) (uri : String) :
    x.joined uri < (x.request t uri).queues.length := by
  unfold joined
  cases h : x.lock? uri with
  | some l => exact Nat.lt_of_lt_of_le (hw.known h) (length_request x t uri)
  | none => simp [request_of_none h]

theorem eq_of_joined (hw : x.WellFormed) (h : x.lock? uri' = some (x.joined uri)) :
    uri' = uri := by
  unfold joined at h
  cases hu : x.lock? uri with
  | some l =>
    rw [hu] at h
    exact hw.own h hu
  | none =>
    rw [hu] at h
    exact absurd (hw.known h) (Nat.lt_irrefl _)

theorem queue_request (hw : x.WellFormed) (t : Nat) (uri : String) (l : Nat) :
    (x.request t uri).queue l =
      if l = x.joined uri then x.wanting uri ++ [t] else x.queue l := by
  unfold joined
  cases h : x.lock? uri with
  | some k =>
    simp only [request_of_lock? h, wanting_of_lock? h, queue, List.getElem?_modify]
    by_cases hl : l = k
    · subst hl
      simp [hw.known h]
    · simp [hl, Ne.symm hl]
  | none =>
    simp only [request_of_none h, wanting_of_none h, queue]
    by_cases hl : l = x.queues.length
    · subst hl
      simp
    · rw [Option.getD_none, if_neg hl, List.getElem?_append]
      split
      · rfl
      · have hgt : x.queues.length < l := by omega
        rw [List.getElem?_eq_none (by simp; omega), List.getElem?_eq_none (Nat.le_of_lt hgt)]

theorem wanting_request (hw : x.WellFormed) (t : Nat) (uri uri' : String) :
    (x.request t uri).wanting uri' =
      if uri' = uri then x.wanting uri ++ [t] else x.wanting uri' := by
  have hl := lock?_request x t uri uri'
  split
  · rename_i heq
    rw [if_pos heq] at hl
    rw [wanting_of_lock? hl, hw.queue_request, if_pos rfl]
  · rename_i hne
    rw [if_neg hne] at hl
    cases h : x.lock? uri' with
    | none => rw [wanting_of_none (hl.trans h), wanting_of_none h]
    | some l =>
      have hlj : l ≠ x.joined uri := by
        rintro rfl
        exact hne (hw.eq_of_joined h)
      rw [wanting_of_lock? (hl.trans h), wanting_of_lock? h, hw.queue_request, if_neg hlj]

theorem wanting_nodup (hw : x.WellFormed) (uri : String) : (x.wanting uri).Nodup := by
  cases h : x.lock? uri with
  | none =>
    rw [wanting_of_none h]
    exact List.nodup_nil
  | some l =>
    rw [wanting_of_lock? h]
    exact hw.once l

theorem has_iff (hw : x.WellFormed) : x.has t = true ↔ ∃ uri, (x.wanting uri).head? = some t := by
  rw [has, List.any_eq_true]
  constructor
  · rintro ⟨q, hq, ht⟩
    obtain ⟨l, hl⟩ := List.mem_iff_getElem?.1 hq
    have hql : x.queue l = q := by rw [queue, hl, Option.getD_some]
    have hm : t ∈ x.queue l := by
      rw [hql]
      exact List.mem_of_mem_head? (beq_iff_eq.1 ht)
    obtain ⟨uri, hu⟩ := hw.used hm
    refine ⟨uri, ?_⟩
    rw [wanting_of_lock? hu, hql]
    exact beq_iff_eq.1 ht
  · rintro ⟨uri, ht⟩
    obtain ⟨l, hl, hm⟩ := mem_wanting.1 (List.mem_of_mem_head? ht)
    rw [wanting_of_lock? hl] at ht
    refine ⟨x.queue l, ?_, beq_iff_eq.2 ht⟩
    have hlt := hw.known hl
    rw [queue, List.getElem?_eq_getElem hlt, Option.getD_some]
    exact List.getElem_mem hlt

theorem empty : DocumentLocks.empty.WellFormed where
  known := nofun
  own := nofun
  used := nofun
  once _ := List.nodup_nil
  apart := nofun

theorem lock?_of_request (h : (x.request t uri).lock? uri' = some l) :
    uri' = uri ∧ l = x.joined uri ∨ x.lock? uri' = some l := by
  rw [lock?_request] at h
  split at h
  · rename_i heq
    cases h
    exact .inl ⟨heq, rfl⟩
  · exact .inr h

theorem mem_queue_request (hw : x.WellFormed) {u : Nat} :
    u ∈ (x.request t uri).queue l ↔ u ∈ x.queue l ∨ u = t ∧ l = x.joined uri := by
  rw [hw.queue_request]
  split
  · rename_i heq
    rw [List.mem_append, List.mem_singleton, heq, queue_joined, and_iff_left rfl]
  · rename_i hne
    exact (or_iff_left fun h => hne h.2).symm

theorem request (hw : x.WellFormed) (hn : ∀ l, t ∉ x.queue l) (uri : String) :
    (x.request t uri).WellFormed := by
  constructor
  case known =>
    intro uri' l h
    obtain ⟨-, rfl⟩ | h := lock?_of_request h
    · exact hw.joined_lt t uri
    · exact Nat.lt_of_lt_of_le (hw.known h) (length_request x t uri)
  case own =>
    intro u v l h h'
    obtain ⟨rfl, rfl⟩ | hu := lock?_of_request h
    · obtain ⟨rfl, -⟩ | hv := lock?_of_request h'
      · rfl
      · exact (hw.eq_of_joined hv).symm
    · obtain ⟨rfl, rfl⟩ | hv := lock?_of_request h'
      · exact hw.eq_of_joined hu
      · exact hw.own hu hv
  case used =>
    intro u l hm
    obtain hm | ⟨-, rfl⟩ := hw.mem_queue_request.1 hm
    · obtain ⟨uri', h⟩ := hw.used hm
      refine ⟨uri', ?_⟩
      rw [lock?_request]
      split
      · rename_i heq
        rw [joined, ← heq, h, Option.getD_some]
      · exact h
    · exact ⟨uri, by rw [lock?_request, if_pos rfl]⟩
  case once =>
    intro l
    rw [hw.queue_request]
    split
    · refine List.nodup_append.2 ⟨hw.wanting_nodup uri, List.nodup_singleton t, ?_⟩
      rintro u hu v hv rfl
      rw [List.mem_singleton.1 hv, ← queue_joined] at hu
      exact hn _ hu
    · exact hw.once l
  case apart =>
    intro u l l' hm hm'
    obtain hold | ⟨rfl, rfl⟩ := hw.mem_queue_request.1 hm
    · obtain hold' | ⟨rfl, -⟩ := hw.mem_queue_request.1 hm'
      · exact hw.apart hold hold'
      · exact absurd hold (hn l)
    · obtain hold' | ⟨-, rfl⟩ := hw.mem_queue_request.1 hm'
      · exact absurd hold' (hn l')
      · rfl

theorem release (hw : x.WellFormed) (t : Nat) : (x.release t).WellFormed := by
  have hsub (l : Nat) : ((x.release t).queue l).Sublist (x.queue l) := by
    rw [queue_release]
    split
    · exact List.drop_sublist 1 _
    · exact List.Sublist.refl _
  constructor
  case known =>
    intro uri l h
    rw [DocumentLocks.release, List.length_map]
    exact hw.known h
  case own => exact hw.own
  case used => exact fun hm => hw.used ((hsub _).subset hm)
  case once => exact fun l => (hw.once l).sublist (hsub l)
  case apart => exact fun hm hm' => hw.apart ((hsub _).subset hm) ((hsub _).subset hm')

theorem drop (hw : x.WellFormed) (uri : String) : (x.drop uri).WellFormed := by
  have hl {uri' : String} {l : Nat} (h : (x.drop uri).lock? uri' = some l) :
      x.lock? uri' = some l := by
    rw [lock?_drop] at h
    split at h
    · cases h
    · exact h
  constructor
  case known =>
    intro uri' l h
    rw [length_drop]
    exact hw.known (hl h)
  case own => exact fun h h' => hw.own (hl h) (hl h')
  case used =>
    intro t l hm
    rw [queue_drop] at hm
    obtain ⟨uri', h⟩ := hw.used hm
    refine ⟨uri', ?_⟩
    rw [lock?_drop, if_neg]
    · exact h
    · rintro ⟨rfl, hq⟩
      rw [wanting_of_lock? h] at hq
      rw [hq] at hm
      cases hm
  case once =>
    intro l
    rw [queue_drop]
    exact hw.once l
  case apart =>
    intro t l l' hm hm'
    rw [queue_drop] at hm hm'
    exact hw.apart hm hm'

end WellFormed

end DocumentLocks
end Switchyard
