import Switchyard.Proofs.Text.Ascii
import Switchyard.Text.Upper

namespace Switchyard.Text.Upper

namespace Run

variable {r s : Run} {m n : Nat}

def Has (r : Run) (n : Nat) : Prop := ∃ k < r.count, n = r.first + k * r.step

/-- The capitals of the characters in a run, which are a run again. -/
def capitals (r : Run) : Run :=
  { r with first := (r.first + r.distance).toNat }

def single (n : Nat) : Run := ⟨n, 1, 1, 0⟩

def last (r : Run) : Nat := r.first + (r.count - 1) * r.step

/-- Whether two runs lie apart: one before the other, or one on the even and one on the odd code
points. -/
def apart (r s : Run) : Bool :=
  Nat.blt r.last s.first || Nat.blt s.last r.first ||
    (s.step == 2 && (r.step == 2 || r.count == 1) && r.first % 2 != s.first % 2)

theorem Has.first_le (h : r.Has n) : r.first ≤ n := by
  obtain ⟨k, hk, rfl⟩ := h
  exact Nat.le_add_right _ _

theorem Has.le_last (h : r.Has n) : n ≤ r.last := by
  obtain ⟨k, hk, rfl⟩ := h
  exact Nat.add_le_add_left (Nat.mul_le_mul_right _ (Nat.le_sub_one_of_lt hk)) _

theorem Has.mod_two (h : r.Has n) (hr : r.step = 2 ∨ r.count = 1) : n % 2 = r.first % 2 := by
  obtain ⟨k, hk, rfl⟩ := h
  obtain hs | hc := hr
  · rw [hs]
    omega
  · obtain rfl : k = 0 := by omega
    rw [Nat.zero_mul, Nat.add_zero]

theorem not_has_of_apart (h : r.apart s = true) (hn : r.Has n) : ¬ s.Has n := by
  intro hs
  simp only [apart, Bool.or_eq_true, Bool.and_eq_true, Nat.blt_eq, beq_iff_eq, bne_iff_ne] at h
  obtain (h | h) | ⟨⟨hstep, hr⟩, hne⟩ := h
  · exact Nat.not_lt_of_le (Nat.le_trans hs.first_le hn.le_last) h
  · exact Nat.not_lt_of_le (Nat.le_trans hn.first_le hs.le_last) h
  · exact hne ((hn.mod_two hr).symm.trans (hs.mod_two (.inl hstep)))

theorem has_single (n : Nat) : (single n).Has n :=
  ⟨0, Nat.one_pos, (Nat.add_zero n).symm⟩

theorem has_of_capital? (h : r.capital? n = some m) : r.Has n := by
  unfold capital? at h
  obtain ⟨hn, -⟩ := Option.ite_none_right_eq_some.1 h
  simp only [Bool.and_eq_true, decide_eq_true_iff, beq_iff_eq] at hn
  obtain ⟨⟨hle, hlt⟩, hmod⟩ := hn
  have hdiv : n - r.first = (n - r.first) / r.step * r.step :=
    (Nat.div_mul_cancel (Nat.dvd_of_mod_eq_zero hmod)).symm
  refine ⟨(n - r.first) / r.step, ?_, by omega⟩
  apply Nat.lt_of_mul_lt_mul_right (a := r.step)
  omega

theorem has_capitals (h : r.capital? n = some m) (hr : 0 < r.capitals.first) :
    r.capitals.Has m := by
  obtain ⟨k, hk, hn⟩ := has_of_capital? h
  unfold capital? at h
  obtain ⟨-, h⟩ := Option.ite_none_right_eq_some.1 h
  refine ⟨k, hk, ?_⟩
  change 0 < (r.first + r.distance).toNat at hr
  change m = (r.first + r.distance).toNat + k * r.step
  have hm := Option.some_inj.1 h
  omega

/-- Whether the code points of a run lie above the digits, in capital letters or outside of ASCII,
and have no capital in the tables. -/
def isUpper (r : Run) : Bool :=
  Nat.ble 0x41 r.first && (Nat.ble r.last 0x5A || Nat.ble 0x80 r.first) &&
    (runs.all fun s => r.apart s) && several.all fun e => r.apart (.single e.1.toNat)

theorem isUpper_iff : r.isUpper = true ↔
    0x41 ≤ r.first ∧ (r.last ≤ 0x5A ∨ 0x80 ≤ r.first) ∧
      (∀ s ∈ runs, r.apart s = true) ∧ ∀ e ∈ several, r.apart (.single e.1.toNat) = true := by
  unfold isUpper
  simp only [Bool.and_eq_true, Bool.or_eq_true, Nat.ble_eq, List.all_eq_true, and_assoc]

end Run

theorem capitals_isUpper : (runs.all fun r => r.capitals.isUpper) = true := by
  decide +kernel

theorem several_isUpper :
    (several.all fun e => e.2.all fun d => (Run.single d.toNat).isUpper) = true := by
  decide +kernel

theorem capitals_valid : ∀ r ∈ runs,
    r.capitals.last < 0xD800 ∨ 0xDFFF < r.capitals.first ∧ r.capitals.last < 0x110000 := by
  decide +kernel

variable {c d : Char} {cs : List Char}

inductive Capital : Char → List Char → Prop where
  | ascii {c : Char} : c.toNat < 0x80 → Capital c [c.toUpper]
  | several {c : Char} {cs : List Char} : (c, cs) ∈ several → Capital c cs
  | run {c : Char} {r : Run} {m : Nat} : r ∈ runs → r.capital? c.toNat = some m →
      Capital c [Char.ofNat m]
  | self {c : Char} : ofChar c = [c] → Capital c [c]

theorem ofChar_of_lt (h : c.toNat < 0x80) : ofChar c = [c.toUpper] := if_pos h

theorem ofChar_eq_self (h : 0x80 ≤ c.toNat) (hs : several.lookup c = none)
    (hr : ∀ r ∈ runs, r.capital? c.toNat = none) : ofChar c = [c] := by
  unfold ofChar
  rw [if_neg (Nat.not_lt_of_le h), hs, List.findSome?_eq_none_iff.2 hr]

theorem capital_ofChar (c : Char) : Capital c (ofChar c) := by
  by_cases hc : c.toNat < 0x80
  · rw [ofChar_of_lt hc]
    exact .ascii hc
  · have hle : 0x80 ≤ c.toNat := Nat.le_of_not_lt hc
    unfold ofChar
    rw [if_neg hc]
    split
    · rename_i cs hs
      obtain ⟨before, after, he, -⟩ := List.lookup_eq_some_iff.1 hs
      exact .several (he ▸ List.mem_append_right _ (List.mem_cons_self ..))
    · rename_i hs
      split
      · rename_i m hm
        obtain ⟨r, hr, hm⟩ := List.exists_of_findSome?_eq_some hm
        exact .run hr hm
      · rename_i hr
        exact .self (ofChar_eq_self hle hs (List.findSome?_eq_none_iff.1 hr))

theorem ofChar_ne_nil (c : Char) : ofChar c ≠ [] := by
  intro h
  have hs : ∀ e ∈ several, e.2 ≠ [] := by decide +kernel
  have hc := capital_ofChar c
  rw [h] at hc
  cases hc with
  | several hm => exact hs _ hm rfl

theorem ofChar_of_isUpper {r : Run} (hr : r.isUpper = true) (hc : r.Has c.toNat) :
    ofChar c = [c] := by
  obtain ⟨-, hplace, hruns, hseveral⟩ := Run.isUpper_iff.1 hr
  have hfirst := hc.first_le
  have hlast := hc.le_last
  by_cases hascii : c.toNat < 0x80
  · rw [ofChar_of_lt hascii, toUpper_of_le (by omega)]
  · refine ofChar_eq_self (Nat.le_of_not_lt hascii) ?_ ?_
    · rw [List.lookup_eq_none_iff]
      intro e he
      rw [bne_iff_ne]
      rintro rfl
      exact Run.not_has_of_apart (hseveral e he) hc (Run.has_single _)
    · intro s hs
      cases hm : s.capital? c.toNat with
      | none => rfl
      | some m =>
        exact absurd (Run.has_of_capital? hm) (Run.not_has_of_apart (hruns s hs) hc)

theorem ne_star_of_isUpper {r : Run} (hr : r.isUpper = true) (hc : r.Has c.toNat) : c ≠ '*' := by
  rintro rfl
  exact absurd (Nat.le_trans (Run.isUpper_iff.1 hr).1 hc.first_le) (by decide)

theorem isUpper_of_several (h : (c, cs) ∈ several) (hd : d ∈ cs) :
    (Run.single d.toNat).isUpper = true :=
  List.all_eq_true.1 (List.all_eq_true.1 several_isUpper _ h) d hd

theorem has_capital {r : Run} {m n : Nat} (hr : r ∈ runs) (h : r.capital? n = some m) :
    r.capitals.isUpper = true ∧ r.capitals.Has (Char.ofNat m).toNat := by
  have hupper := List.all_eq_true.1 capitals_isUpper r hr
  have hlow := (Run.isUpper_iff.1 hupper).1
  have hm := Run.has_capitals h (by omega)
  have hfirst := hm.first_le
  have hlast := hm.le_last
  have hvalid := capitals_valid r hr
  refine ⟨hupper, ?_⟩
  rw [Utf8.toNat_ofNat ?_]
  · exact hm
  · unfold Nat.isValidChar
    omega

theorem ofChar_of_mem (h : d ∈ ofChar c) : ofChar d = [d] := by
  have hc := capital_ofChar c
  generalize ofChar c = cs at h hc
  cases hc with
  | ascii hlt =>
    rw [List.mem_singleton] at h
    subst h
    obtain ⟨hlt', hupper, -⟩ := toUpper_ascii hlt
    rw [ofChar_of_lt hlt', hupper]
  | several hm => exact ofChar_of_isUpper (isUpper_of_several hm h) (Run.has_single _)
  | run hr hm =>
    rw [List.mem_singleton] at h
    subst h
    obtain ⟨hupper, hhas⟩ := has_capital hr hm
    exact ofChar_of_isUpper hupper hhas
  | self hself =>
    rw [List.mem_singleton] at h
    rw [h, hself]

theorem star_mem_ofChar : '*' ∈ ofChar c ↔ c = '*' := by
  constructor
  · intro h
    have hc := capital_ofChar c
    generalize ofChar c = cs at h hc
    cases hc with
    | ascii hlt =>
      exact (toUpper_ascii hlt).2.2 (List.mem_singleton.1 h).symm
    | several hm =>
      exact absurd rfl (ne_star_of_isUpper (isUpper_of_several hm h) (Run.has_single _))
    | run hr hm =>
      obtain ⟨hupper, hhas⟩ := has_capital hr hm
      exact absurd (List.mem_singleton.1 h).symm (ne_star_of_isUpper hupper hhas)
    | self _ => exact (List.mem_singleton.1 h).symm
  · rintro rfl
    exact List.mem_singleton.2 rfl

theorem star_not_mem_beside (before after : List Char) (h : ofChar c = before ++ d :: after) :
    '*' ∉ before ++ after := by
  by_cases hc : c = '*'
  · subst hc
    have hl : (before ++ d :: after).length = 1 := congrArg List.length h.symm
    have hnil : before ++ after = [] := by
      rw [List.length_append, List.length_cons] at hl
      refine List.eq_nil_of_length_eq_zero ?_
      rw [List.length_append]
      omega
    rw [hnil]
    exact List.not_mem_nil
  · have hstar : '*' ∉ before ++ d :: after := fun hm => hc (star_mem_ofChar.1 (h ▸ hm))
    rw [List.mem_append, not_or] at hstar ⊢
    exact ⟨hstar.1, fun hm => hstar.2 (List.mem_cons_of_mem d hm)⟩

variable {text : List Char}

theorem ofText_append (text text' : List Char) :
    ofText (text ++ text') = ofText text ++ ofText text' :=
  List.flatMap_append

theorem ofText_singleton (c : Char) : ofText [c] = ofChar c := List.append_nil _

theorem ofText_of_mem (h : ∀ d ∈ text, ofChar d = [d]) : ofText text = text := by
  induction text with
  | nil => rfl
  | cons c text ih =>
    rw [List.forall_mem_cons] at h
    change ofChar c ++ ofText text = _
    rw [h.1, ih h.2, List.singleton_append]

theorem ofText_ofText (text : List Char) : ofText (ofText text) = ofText text := by
  apply ofText_of_mem
  intro d hd
  obtain ⟨c, -, hc⟩ := List.mem_flatMap.1 hd
  exact ofChar_of_mem hc

theorem star_mem_ofText : '*' ∈ ofText text ↔ '*' ∈ text := by
  unfold ofText
  rw [List.mem_flatMap]
  simp only [star_mem_ofChar, exists_eq_right]

def SameLetters (text text' : List Char) : Prop := ofText text = ofText text'

theorem sameLetters_ofText (text : List Char) : SameLetters (ofText text) text :=
  ofText_ofText text

end Switchyard.Text.Upper
