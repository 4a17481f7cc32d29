import Switchyard.Text.Utf8

namespace Switchyard.Text.Utf8

inductive Sequence : List UInt8 → Char → Prop where
  | one {a : UInt8} {x : Char} : a < 0x80 → Char.ofNat a.toNat = x → Sequence [a] x
  | two {a b : UInt8} {x : Char} : secondOk a b = true → a < 0xE0 → char2 a b = x →
      Sequence [a, b] x
  | three {a b c : UInt8} {x : Char} : secondOk a b = true → ¬ a < 0xE0 → isTail c = true →
      a < 0xF0 → char3 a b c = x → Sequence [a, b, c] x
  | four {a b c d : UInt8} {x : Char} : secondOk a b = true → ¬ a < 0xE0 → isTail c = true →
      ¬ a < 0xF0 → isTail d = true → char4 a b c d = x → Sequence [a, b, c, d] x

variable {acc text : List Char} {bytes rest : List UInt8} {x : Char}

theorem isTail_iff (b : UInt8) : isTail b = true ↔ 0x80 ≤ b.toNat ∧ b.toNat ≤ 0xBF := by
  simp [isTail, UInt8.le_iff_toNat_le]

theorem secondOk_iff (a b : UInt8) : secondOk a b = true ↔
    0xC2 ≤ a.toNat ∧ a.toNat < 0xF5 ∧ 0x80 ≤ b.toNat ∧ b.toNat ≤ 0xBF ∧
      (a.toNat = 0xE0 → 0xA0 ≤ b.toNat) ∧ (a.toNat = 0xED → b.toNat ≤ 0x9F) ∧
      (a.toNat = 0xF0 → 0x90 ≤ b.toNat) ∧ (a.toNat = 0xF4 → b.toNat ≤ 0x8F) := by
  unfold secondOk
  simp only [UInt8.lt_iff_toNat_lt, beq_iff_eq, ← UInt8.toNat_inj, UInt8.reduceToNat]
  repeat' split
  all_goals
    simp [UInt8.le_iff_toNat_le, isTail_iff]
    omega

theorem not_lt_of_secondOk {a b : UInt8} (h : secondOk a b = true) : ¬ a < 0x80 := by
  rw [secondOk_iff] at h
  simp only [UInt8.lt_iff_toNat_lt, UInt8.reduceToNat]
  omega

theorem toNat_ofNat {n : Nat} (h : n.isValidChar) : (Char.ofNat n).toNat = n := by
  have hc : Char.ofNat n = Char.ofNatAux n h := dif_pos h
  rw [hc]
  rfl

theorem ofNat_eq {n : Nat} (h : n = x.toNat) : Char.ofNat n = x := by
  rw [h, Char.ofNat_toNat]

theorem toNat_byte {n : Nat} (h : n < 256) : (UInt8.ofNat n).toNat = n := by
  rw [UInt8.toNat_ofNat', Nat.mod_eq_of_lt h]

theorem byte_eq {n : Nat} {b : UInt8} (h : n = b.toNat) : UInt8.ofNat n = b := by
  rw [h, UInt8.ofNat_toNat]

theorem encodeChar_eq (x : Char) : String.utf8EncodeChar x =
    if x.toNat ≤ 0x7F then [UInt8.ofNat x.toNat]
    else if x.toNat ≤ 0x7FF then
      [UInt8.ofNat (x.toNat / 64 % 32 + 192), UInt8.ofNat (x.toNat % 64 + 128)]
    else if x.toNat ≤ 0xFFFF then
      [UInt8.ofNat (x.toNat / 4096 % 16 + 224), UInt8.ofNat (x.toNat / 64 % 64 + 128),
        UInt8.ofNat (x.toNat % 64 + 128)]
    else
      [UInt8.ofNat (x.toNat / 262144 % 8 + 240), UInt8.ofNat (x.toNat / 4096 % 64 + 128),
        UInt8.ofNat (x.toNat / 64 % 64 + 128), UInt8.ofNat (x.toNat % 64 + 128)] := rfl

theorem Sequence.encode (h : Sequence bytes x) : String.utf8EncodeChar x = bytes := by
  rw [encodeChar_eq]
  cases h with
  | @one a _ ha hx =>
    simp only [UInt8.lt_iff_toNat_lt, UInt8.reduceToNat] at ha
    rw [← hx, toNat_ofNat (.inl (by omega)), if_pos (by omega), UInt8.ofNat_toNat]
  | @two a b _ hs ha hx =>
    rw [secondOk_iff] at hs
    simp only [UInt8.lt_iff_toNat_lt, UInt8.reduceToNat] at ha
    rw [← hx, char2, toNat_ofNat (.inl (by omega)), if_neg (by omega), if_pos (by omega)]
    rw [byte_eq (b := a) (by omega), byte_eq (b := b) (by omega)]
  | @three a b c _ hs ha hc hf hx =>
    rw [secondOk_iff] at hs
    rw [isTail_iff] at hc
    simp only [UInt8.lt_iff_toNat_lt, UInt8.reduceToNat] at ha hf
    have hv : ((a.toNat - 0xE0) * 4096 + (b.toNat - 0x80) * 64 + (c.toNat - 0x80)).isValidChar := by
      unfold Nat.isValidChar
      omega
    rw [← hx, char3, toNat_ofNat hv, if_neg (by omega), if_neg (by omega), if_pos (by omega)]
    rw [byte_eq (b := a) (by omega), byte_eq (b := b) (by omega), byte_eq (b := c) (by omega)]
  | @four a b c d _ hs ha hc hf hd hx =>
    rw [secondOk_iff] at hs
    rw [isTail_iff] at hc hd
    simp only [UInt8.lt_iff_toNat_lt, UInt8.reduceToNat] at ha hf
    have hv : ((a.toNat - 0xF0) * 262144 + (b.toNat - 0x80) * 4096 + (c.toNat - 0x80) * 64 +
        (d.toNat - 0x80)).isValidChar := by
      unfold Nat.isValidChar
      omega
    rw [← hx, char4, toNat_ofNat hv, if_neg (by omega), if_neg (by omega), if_neg (by omega)]
    rw [byte_eq (b := a) (by omega), byte_eq (b := b) (by omega), byte_eq (b := c) (by omega),
      byte_eq (b := d) (by omega)]

theorem byte_lt_iff {n m : Nat} (hn : n < 256) (hm : m < 256) :
    UInt8.ofNat n < UInt8.ofNat m ↔ n < m := by
  rw [UInt8.lt_iff_toNat_lt, toNat_byte hn, toNat_byte hm]

theorem isTail_byte (n : Nat) : isTail (UInt8.ofNat (n % 64 + 128)) = true := by
  rw [isTail_iff, toNat_byte (by omega)]
  omega

theorem sequence_two (h : 0x7F < x.toNat) (h' : x.toNat ≤ 0x7FF) :
    Sequence [UInt8.ofNat (x.toNat / 64 % 32 + 192), UInt8.ofNat (x.toNat % 64 + 128)] x := by
  apply Sequence.two
  · rw [secondOk_iff, toNat_byte (by omega), toNat_byte (by omega)]
    omega
  · exact (byte_lt_iff (by omega) (by decide : 0xE0 < 256)).2 (by omega)
  · rw [char2, toNat_byte (by omega), toNat_byte (by omega)]
    exact ofNat_eq (by omega)

theorem sequence_three (hx : x.toNat < 0xD800 ∨ 0xDFFF < x.toNat) (h : 0x7FF < x.toNat)
    (h' : x.toNat ≤ 0xFFFF) :
    Sequence [UInt8.ofNat (x.toNat / 4096 % 16 + 224), UInt8.ofNat (x.toNat / 64 % 64 + 128),
      UInt8.ofNat (x.toNat % 64 + 128)] x := by
  apply Sequence.three
  · rw [secondOk_iff, toNat_byte (by omega), toNat_byte (by omega)]
    omega
  · exact (not_congr (byte_lt_iff (by omega) (by decide : 0xE0 < 256))).2 (by omega)
  · exact isTail_byte _
  · exact (byte_lt_iff (by omega) (by decide : 0xF0 < 256)).2 (by omega)
  · rw [char3, toNat_byte (by omega), toNat_byte (by omega), toNat_byte (by omega)]
    exact ofNat_eq (by omega)

theorem sequence_four (h : 0xFFFF < x.toNat) (h' : x.toNat < 0x110000) :
    Sequence [UInt8.ofNat (x.toNat / 262144 % 8 + 240), UInt8.ofNat (x.toNat / 4096 % 64 + 128),
      UInt8.ofNat (x.toNat / 64 % 64 + 128), UInt8.ofNat (x.toNat % 64 + 128)] x := by
  apply Sequence.four
  · rw [secondOk_iff, toNat_byte (by omega), toNat_byte (by omega)]
    omega
  · exact (not_congr (byte_lt_iff (by omega) (by decide : 0xE0 < 256))).2 (by omega)
  · exact isTail_byte _
  · exact (not_congr (byte_lt_iff (by omega) (by decide : 0xF0 < 256))).2 (by omega)
  · exact isTail_byte _
  · rw [char4, toNat_byte (by omega), toNat_byte (by omega), toNat_byte (by omega),
      toNat_byte (by omega)]
    exact ofNat_eq (by omega)

theorem sequence_encodeChar (x : Char) : Sequence (String.utf8EncodeChar x) x := by
  have hx : x.toNat < 0xD800 ∨ 0xDFFF < x.toNat ∧ x.toNat < 0x110000 := x.valid
  rw [encodeChar_eq]
  split
  · apply Sequence.one
    · exact (byte_lt_iff (by omega) (by decide : 0x80 < 256)).2 (by omega)
    · rw [toNat_byte (by omega), Char.ofNat_toNat]
  split
  · exact sequence_two (by omega) (by omega)
  split
  · exact sequence_three (by omega) (by omega) (by omega)
  · exact sequence_four (by omega) (by omega)

/-- A character is written as its own number, or with bytes that are no characters. -/
theorem Sequence.single_or (h : Sequence bytes x) :
    (∃ b, bytes = [b] ∧ b.toNat = x.toNat) ∨ ∀ b ∈ bytes, 0x80 ≤ b.toNat := by
  cases h with
  | one ha hx =>
    simp only [UInt8.lt_iff_toNat_lt, UInt8.reduceToNat] at ha
    refine .inl ⟨_, rfl, ?_⟩
    rw [← hx, toNat_ofNat (.inl (by omega))]
  | two hs ha hx =>
    rw [secondOk_iff] at hs
    right
    simp only [List.mem_cons, List.not_mem_nil, or_false]
    rintro _ (rfl | rfl) <;> omega
  | three hs ha hc hf hx =>
    rw [secondOk_iff] at hs
    rw [isTail_iff] at hc
    right
    simp only [List.mem_cons, List.not_mem_nil, or_false]
    rintro _ (rfl | rfl | rfl) <;> omega
  | four hs ha hc hf hd hx =>
    rw [secondOk_iff] at hs
    rw [isTail_iff] at hc hd
    right
    simp only [List.mem_cons, List.not_mem_nil, or_false]
    rintro _ (rfl | rfl | rfl | rfl) <;> omega

@[simp] theorem encode_nil : encode [] = [] := rfl

@[simp] theorem encode_cons (x : Char) (text : List Char) :
    encode (x :: text) = String.utf8EncodeChar x ++ encode text := rfl

theorem encode_eq_nil_iff : encode text = [] ↔ text = [] := by
  cases text with
  | nil => simp
  | cons x text => simp [String.utf8EncodeChar_ne_nil]

theorem encode_append (text text' : List Char) :
    encode (text ++ text') = encode text ++ encode text' :=
  List.flatMap_append

theorem Sequence.decodeOnto (h : Sequence bytes x) (acc : List Char) (rest : List UInt8) :
    Utf8.decodeOnto acc (bytes ++ rest) = Utf8.decodeOnto (x :: acc) rest := by
  rw [decodeOnto.eq_def]
  cases h with
  | one ha hx => simp [ha, hx]
  | two hs ha hx => simp [not_lt_of_secondOk hs, hs, ha, hx]
  | three hs ha hc hf hx => simp [not_lt_of_secondOk hs, hs, ha, hc, hf, hx]
  | four hs ha hc hf hd hx => simp [not_lt_of_secondOk hs, hs, ha, hc, hf, hd, hx]

theorem decodeOnto_encode (acc text : List Char) :
    decodeOnto acc (encode text) = some (acc.reverse ++ text) := by
  induction text generalizing acc with
  | nil =>
    rw [encode_nil, decodeOnto, List.append_nil]
  | cons x text ih =>
    rw [encode_cons, (sequence_encodeChar x).decodeOnto, ih, List.reverse_cons, List.append_assoc,
      List.singleton_append]

theorem encode_of_decodeOnto (h : decodeOnto acc bytes = some text) :
    ∃ more, text = acc.reverse ++ more ∧ encode more = bytes := by
  -- a character that has been read is put before those that follow it
  have step {acc text : List Char} {x : Char} {bytes rest : List UInt8} (hs : Sequence bytes x)
      (h : ∃ more, text = (x :: acc).reverse ++ more ∧ encode more = rest) :
      ∃ more, text = acc.reverse ++ more ∧ encode more = bytes ++ rest := by
    obtain ⟨more, rfl, rfl⟩ := h
    refine ⟨x :: more, ?_, ?_⟩
    · rw [List.reverse_cons, List.append_assoc, List.singleton_append]
    · rw [encode_cons, hs.encode]
  fun_induction decodeOnto acc bytes with
  | case1 acc =>
    cases h
    exact ⟨[], (List.append_nil _).symm, rfl⟩
  | case2 acc a s ha ih => exact step (.one ha rfl) (ih h)
  | case5 acc a _ b s hs ha ih => exact step (.two (by simpa using hs) ha rfl) (ih h)
  | case8 acc a _ b hs ha c s hc hf ih =>
    exact step (.three (by simpa using hs) ha (by simpa using hc) hf rfl) (ih h)
  | case10 acc a _ b hs ha c hc hf d s hd ih =>
    exact step (.four (by simpa using hs) ha (by simpa using hc) hf hd rfl) (ih h)
  | case3 | case4 | case6 | case7 | case9 | case11 => cases h

theorem decode?_eq_some_iff : decode? bytes = some text ↔ encode text = bytes := by
  constructor
  · intro h
    obtain ⟨more, rfl, he⟩ := encode_of_decodeOnto h
    exact he
  · intro h
    rw [← h]
    exact decodeOnto_encode [] text

@[simp] theorem decode?_encode (text : List Char) : decode? (encode text) = some text :=
  decode?_eq_some_iff.2 rfl

end Switchyard.Text.Utf8
