import Switchyard.Number.Natural

namespace Switchyard.Natural

/-- Decimal digits, after a plus sign or without one, for a number below a limit. -/
def IsNumeral (limit : Nat) (text : List Char) (n : Nat) : Prop :=
  ∃ digits, (text = digits ∨ text = '+' :: digits) ∧ digits ≠ [] ∧
    (∀ d ∈ digits, d.isDigit = true) ∧ Nat.ofDigitChars 10 digits 0 = n ∧ n < limit

variable {limit m n : Nat} {text digits : List Char}

theorem le_ofDigitChars (digits : List Char) (n : Nat) : n ≤ Nat.ofDigitChars 10 digits n := by
  rw [Nat.ofDigitChars_eq_ofDigitChars_zero]
  have h : 1 ≤ 10 ^ digits.length := Nat.one_le_pow _ _ (by omega)
  have h := Nat.mul_le_mul_right n h
  omega

theorem readDigits_eq_ok_iff (h : m < limit) : readDigits limit m digits = .ok n ↔
    (∀ d ∈ digits, d.isDigit = true) ∧ Nat.ofDigitChars 10 digits m = n ∧ n < limit := by
  induction digits generalizing m with
  | nil =>
    rw [readDigits, Nat.ofDigitChars_nil]
    constructor
    · intro hn
      cases hn
      exact ⟨nofun, rfl, h⟩
    · rintro ⟨-, rfl, -⟩
      rfl
  | cons d digits ih =>
    rw [readDigits, Nat.ofDigitChars_cons, Nat.mul_comm 10 m]
    by_cases hd : d.isDigit = true
    · simp only [hd, Bool.not_true, Bool.false_eq_true, if_false, List.forall_mem_cons, true_and]
      split
      · rename_i hl
        have hle := le_ofDigitChars digits (m * 10 + (d.toNat - 48))
        constructor
        · exact nofun
        · rintro ⟨-, rfl, hn⟩
          exact absurd (Nat.lt_of_le_of_lt (Nat.le_trans hl hle) hn) (Nat.lt_irrefl _)
      · rename_i hl
        exact ih (Nat.lt_of_not_le hl)
    · simp [hd]

theorem read_eq_ok_iff (h : 0 < limit) : read limit text = .ok n ↔ IsNumeral limit text n := by
  unfold read
  split
  · constructor
    · exact nofun
    · rintro ⟨digits, rfl | ht, hne, -⟩
      · exact absurd rfl hne
      · cases ht
  · constructor
    · exact nofun
    · rintro ⟨digits, rfl | ht, hne, hd, -⟩
      · exact absurd (hd '+' List.mem_cons_self) (by decide)
      · cases ht
        exact absurd rfl hne
  · rename_i digits hp
    rw [readDigits_eq_ok_iff h]
    constructor
    · intro hn
      exact ⟨digits, .inr rfl, fun he => hp (he ▸ rfl), hn⟩
    · rintro ⟨ds, rfl | ht, -, hd⟩
      · exact absurd (hd.1 '+' List.mem_cons_self) (by decide)
      · cases ht
        exact hd
  · rename_i ne hp hs
    rw [readDigits_eq_ok_iff h]
    constructor
    · intro hn
      exact ⟨text, .inl rfl, ne, hn⟩
    · rintro ⟨ds, rfl | rfl, -, hd⟩
      · exact hd
      · exact absurd rfl (hs ds)

theorem isNumeral_toDigits (h : n < limit) : IsNumeral limit (Nat.toDigits 10 n) n := by
  refine ⟨Nat.toDigits 10 n, .inl rfl, Nat.toDigits_ne_nil, ?_, Nat.ofDigitChars_ten_toDigits, h⟩
  intro d hd
  exact Nat.isDigit_of_mem_toDigits (by omega) (by omega) hd

end Switchyard.Natural
