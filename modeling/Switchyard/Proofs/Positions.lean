import Mathlib.Data.List.Basic

namespace Switchyard

variable {α : Type} {l : List α} {i j : Nat} {x y : α}

theorem getElem?_set_cases (h : (l.set i x)[j]? = some y) :
    j = i ∧ x = y ∨ j ≠ i ∧ l[j]? = some y := by
  rw [List.getElem?_set] at h
  grind

theorem getElem?_concat_cases (h : (l ++ [x])[j]? = some y) :
    j = l.length ∧ x = y ∨ l[j]? = some y := by
  rw [List.getElem?_append] at h
  grind

theorem getElem?_of_concat (h : (l ++ [x])[j]? = some y) (hne : x ≠ y) : l[j]? = some y := by
  obtain ⟨-, he⟩ | h := getElem?_concat_cases h
  · exact absurd he hne
  · exact h

theorem getElem?_set_of_some (h : l[i]? = some y) : (l.set i x)[i]? = some x := by
  obtain ⟨hi, _⟩ := List.getElem?_eq_some_iff.1 h
  exact List.getElem?_set_self hi

theorem getElem?_set_of_ne (h : l[j]? = some y) (hne : j ≠ i) : (l.set i x)[j]? = some y := by
  rwa [List.getElem?_set_ne hne.symm]

theorem getElem?_set_or (hx : l[i]? = some x) (hy : l[j]? = some y) :
    (j = i ∧ y = x ∧ ∀ z, (l.set i z)[j]? = some z) ∨
      (j ≠ i ∧ ∀ z, (l.set i z)[j]? = some y) := by
  by_cases h : j = i
  · subst h
    cases hx.symm.trans hy
    exact .inl ⟨rfl, rfl, fun _ => getElem?_set_of_some hx⟩
  · exact .inr ⟨h, fun _ => getElem?_set_of_ne hy h⟩

theorem getElem?_append_of_some {l' : List α} (h : l[i]? = some y) : (l ++ l')[i]? = some y := by
  obtain ⟨hi, _⟩ := List.getElem?_eq_some_iff.1 h
  rwa [List.getElem?_append_left hi]

theorem mem_of_update {l' : List α} {z : α} (hy : l'[i]? = some y)
    (hother : ∀ j, j ≠ i → l'[j]? = l[j]?) (hz : z ∈ l') : z = y ∨ z ∈ l := by
  obtain ⟨j, hj⟩ := List.mem_iff_getElem?.1 hz
  by_cases hji : j = i
  · subst hji
    cases hy.symm.trans hj
    exact .inl rfl
  · rw [hother j hji] at hj
    exact .inr (List.mem_of_getElem? hj)

theorem countP_of_update {p : α → Bool} {l' : List α} (hx : l[i]? = some x)
    (hy : l'[i]? = some y) (hother : ∀ j, j ≠ i → l'[j]? = l[j]?) :
    l'.countP p + (p x).toNat = l.countP p + (p y).toNat := by
  obtain ⟨hi, rfl⟩ := List.getElem?_eq_some_iff.1 hx
  have hset : l' = l.set i y := by
    apply List.ext_getElem?
    intro j
    by_cases hj : j = i
    · rw [hj, hy, List.getElem?_set_self hi]
    · rw [hother j hj, List.getElem?_set_ne (Ne.symm hj)]
  have hpos (h : p l[i] = true) : 0 < l.countP p :=
    List.countP_pos_iff.2 ⟨_, List.getElem_mem hi, h⟩
  rw [hset, List.countP_set hi]
  cases hp : p l[i] with
  | false => cases p y <;> rfl
  | true =>
    have := hpos hp
    cases p y <;> simp <;> omega

def AtMostOnce (P : α → Prop) (l : List α) : Prop :=
  ∀ (i j : Nat) (x y : α), l[i]? = some x → l[j]? = some y → P x → P y → i = j

theorem AtMostOnce.nil {P : α → Prop} : AtMostOnce P [] := by
  intro i j x y h
  cases h

theorem AtMostOnce.concat {P : α → Prop} (h : AtMostOnce P l)
    (hx : P x → ∀ (i : Nat) (y : α), l[i]? = some y → ¬ P y) : AtMostOnce P (l ++ [x]) := by
  intro i j y z hy hz hpy hpz
  obtain ⟨rfl, rfl⟩ | hy := getElem?_concat_cases hy
  · obtain ⟨rfl, -⟩ | hz := getElem?_concat_cases hz
    · rfl
    · exact absurd hpz (hx hpy j z hz)
  · obtain ⟨-, rfl⟩ | hz := getElem?_concat_cases hz
    · exact absurd hpy (hx hpz i y hy)
    · exact h i j y z hy hz hpy hpz

/-- What stands in a list stays at its position, up to a change that a relation allows. -/
def Kept (R : α → α → Prop) (l l' : List α) : Prop :=
  ∀ (i : Nat) (x : α), l[i]? = some x → ∃ y, l'[i]? = some y ∧ R x y

namespace Kept

variable {R R' R'' : α → α → Prop} {l' l'' : List α}

theorem refl (hR : ∀ x, R x x) (l : List α) : Kept R l l := fun _ x h => ⟨x, h, hR x⟩

theorem trans (hR : ∀ x y z, R x y → R' y z → R'' x z) (h : Kept R l l') (h' : Kept R' l' l'') :
    Kept R'' l l'' := by
  intro i x hx
  obtain ⟨y, hy, hxy⟩ := h i x hx
  obtain ⟨z, hz, hyz⟩ := h' i y hy
  exact ⟨z, hz, hR x y z hxy hyz⟩

theorem set (hR : ∀ x, R x x) (hx : l[i]? = some x) (hxy : R x y) : Kept R l (l.set i y) := by
  intro j z hz
  obtain ⟨_, rfl, h⟩ | ⟨_, h⟩ := getElem?_set_or hx hz
  · exact ⟨y, h y, hxy⟩
  · exact ⟨z, h y, hR z⟩

theorem append (hR : ∀ x, R x x) (l l' : List α) : Kept R l (l ++ l') :=
  fun _ x h => ⟨x, getElem?_append_of_some h, hR x⟩

theorem map {f : α → α} (hf : ∀ x, R x (f x)) (l : List α) : Kept R l (l.map f) := by
  intro i x hx
  exact ⟨f x, by rw [List.getElem?_map, hx]; rfl, hf x⟩

theorem modify (hR : ∀ x, R x x) {f : α → α} (hf : ∀ x, R x (f x)) (l : List α) (i : Nat) :
    Kept R l (l.modify i f) := by
  intro j x hx
  rw [List.getElem?_modify, hx]
  refine ⟨_, rfl, ?_⟩
  split
  · exact hf x
  · exact hR x

theorem length_le (h : Kept R l l') : l.length ≤ l'.length := by
  refine Nat.le_of_not_lt fun hl => ?_
  obtain ⟨y, hy, _⟩ := h _ _ (List.getElem?_eq_getElem hl)
  exact Nat.lt_irrefl _ (List.getElem?_eq_some_iff.1 hy).1

end Kept

section Lookup

variable {κ : Type} [DecidableEq κ]

theorem lookup_filter (p : κ → Bool) (l : List (κ × α)) (k : κ) :
    (l.filter fun e => p e.1).lookup k = if p k then l.lookup k else none := by
  induction l with
  | nil => simp
  | cons e l ih =>
    obtain ⟨key, value⟩ := e
    rw [List.filter_cons]
    dsimp only
    by_cases hk : k = key
    · subst hk
      by_cases hp : p k
      · rw [if_pos hp, if_pos hp, List.lookup_cons_self, List.lookup_cons_self]
      · rw [if_neg hp, if_neg hp, ih, if_neg hp]
    · have hl : ((key, value) :: l).lookup k = l.lookup k := by
        rw [List.lookup_cons, beq_false_of_ne hk]
      rw [hl, ← ih]
      by_cases hp : p key
      · rw [if_pos hp, List.lookup_cons, beq_false_of_ne hk]
      · rw [if_neg hp]

theorem lookup_filter_bne (l : List (κ × α)) (k k' : κ) :
    (l.filter (·.1 != k)).lookup k' = if k' = k then none else l.lookup k' := by
  rw [lookup_filter (· != k)]
  by_cases hk : k' = k
  · rw [if_pos hk, if_neg (by simpa using hk)]
  · rw [if_neg hk, if_pos (by simpa using hk)]

end Lookup

end Switchyard
