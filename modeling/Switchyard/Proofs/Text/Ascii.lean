import Switchyard.Proofs.Text.Utf8

namespace Switchyard.Text

variable {c : Char} {b : UInt8} {text : List Char} {bytes : List UInt8}

theorem forall_ascii {p : Char → Bool}
    (h : (List.range 0x80).all (fun n => p (Char.ofNat n)) = true) (hc : c.toNat < 0x80) :
    p c = true := by
  have hp := List.all_eq_true.1 h c.toNat (List.mem_range.2 hc)
  rwa [Char.ofNat_toNat] at hp

theorem toUpper_ascii (hc : c.toNat < 0x80) :
    c.toUpper.toNat < 0x80 ∧ c.toUpper.toUpper = c.toUpper ∧ (c.toUpper = '*' → c = '*') := by
  have h := forall_ascii (p := fun c => c.toUpper.toNat < 0x80 ∧ c.toUpper.toUpper = c.toUpper ∧
    (c.toUpper = '*' → c = '*')) (by decide +kernel) hc
  exact of_decide_eq_true h

theorem toUpper_of_le (hc : c.toNat ≤ 0x5A) : c.toUpper = c := by
  have h := forall_ascii (p := fun c => c.toNat ≤ 0x5A → c.toUpper = c) (by decide +kernel)
    (c := c) (by omega)
  exact of_decide_eq_true h hc

theorem toLower_of_le (hc : 0x80 ≤ c.toNat) : c.toLower = c := by
  refine dif_neg ?_
  rintro ⟨-, hle⟩
  have hn : c.toNat ≤ 0x5A := hle
  omega

def lowerByte (b : UInt8) : UInt8 := if 65 ≤ b ∧ b ≤ 90 then b + 32 else b

theorem lowerByte_of_le (h : 0x80 ≤ b.toNat) : lowerByte b = b := by
  refine if_neg ?_
  rintro ⟨-, hle⟩
  rw [UInt8.le_iff_toNat_le] at hle
  change b.toNat ≤ 90 at hle
  omega

theorem lowerByte_lt (h : b.toNat < 0x80) : (lowerByte b).toNat < 0x80 := by
  unfold lowerByte
  split
  · rename_i hb
    rw [UInt8.le_iff_toNat_le, UInt8.le_iff_toNat_le] at hb
    have hle : b.toNat ≤ 90 := hb.2
    rw [UInt8.toNat_add]
    change (b.toNat + 32) % 256 < _
    omega
  · exact h

theorem lowerByte_lt_iff : (lowerByte b).toNat < 0x80 ↔ b.toNat < 0x80 := by
  refine ⟨fun h => ?_, lowerByte_lt⟩
  by_cases hb : b.toNat < 0x80
  · exact hb
  · rwa [lowerByte_of_le (Nat.le_of_not_lt hb)] at h

theorem map_lowerByte_of_le (h : ∀ b ∈ bytes, 0x80 ≤ b.toNat) : bytes.map lowerByte = bytes :=
  (List.map_congr_left fun b hb => lowerByte_of_le (h b hb)).trans (List.map_id bytes)

namespace Utf8

/-- A character that is not of ASCII is written with bytes that are not of ASCII. -/
theorem encodeChar_of_le (hc : 0x80 ≤ c.toNat) :
    ∀ b ∈ String.utf8EncodeChar c, 0x80 ≤ b.toNat := by
  obtain ⟨b, hb, hn⟩ | h := (sequence_encodeChar c).single_or
  · rw [hb]
    intro b' hb'
    rw [List.mem_singleton.1 hb', hn]
    exact hc
  · exact h

theorem encodeChar_of_lt (hb : b.toNat < 0x80) :
    String.utf8EncodeChar (Char.ofNat b.toNat) = [b] :=
  (Sequence.one (UInt8.lt_iff_toNat_lt.2 hb) rfl).encode

theorem encodeChar_toLower (c : Char) :
    String.utf8EncodeChar c.toLower = (String.utf8EncodeChar c).map lowerByte := by
  by_cases hc : c.toNat < 0x80
  · have h := forall_ascii (p := fun c =>
      String.utf8EncodeChar c.toLower = (String.utf8EncodeChar c).map lowerByte)
      (by decide +kernel) hc
    exact of_decide_eq_true h
  · have hle := Nat.le_of_not_lt hc
    rw [toLower_of_le hle, map_lowerByte_of_le (encodeChar_of_le hle)]

theorem encode_toLower (text : List Char) :
    encode (text.map Char.toLower) = (encode text).map lowerByte := by
  induction text with
  | nil => rfl
  | cons c text ih =>
    rw [List.map_cons, encode_cons, encode_cons, encodeChar_toLower, ih, List.map_append]

/-- Bytes whose letters are put in lower case are a character only if they were one before. -/
theorem exists_of_lower_encodeChar (h : bytes.map lowerByte = String.utf8EncodeChar c) :
    ∃ c', String.utf8EncodeChar c' = bytes := by
  by_cases hc : c.toNat < 0x80
  · have hone : String.utf8EncodeChar c = [UInt8.ofNat c.toNat] := if_pos (Nat.le_of_lt_succ hc)
    rw [hone] at h
    obtain ⟨b, rfl, hb⟩ := List.map_eq_singleton_iff.1 h
    have hlt : (lowerByte b).toNat < 0x80 := by
      rw [hb, toNat_byte (by omega)]
      exact hc
    exact ⟨_, encodeChar_of_lt (lowerByte_lt_iff.1 hlt)⟩
  · refine ⟨c, ?_⟩
    rw [← h]
    apply map_lowerByte_of_le
    intro b hb
    have hle := encodeChar_of_le (Nat.le_of_not_lt hc) (lowerByte b) (h ▸ List.mem_map_of_mem hb)
    exact Nat.le_of_not_lt fun hlt => Nat.not_lt_of_le hle (lowerByte_lt hlt)

theorem exists_of_lower_encode (h : bytes.map lowerByte = encode text) :
    ∃ text', encode text' = bytes := by
  induction text generalizing bytes with
  | nil => exact ⟨[], (List.map_eq_nil_iff.1 h).symm⟩
  | cons c text ih =>
    rw [encode_cons, List.map_eq_append_iff] at h
    obtain ⟨first, rest, rfl, hfirst, hrest⟩ := h
    obtain ⟨c', rfl⟩ := exists_of_lower_encodeChar hfirst
    obtain ⟨text', rfl⟩ := ih hrest
    exact ⟨c' :: text', rfl⟩

/-- Letters put in lower case before or after reading make the same text, and what can be read is
the same, too. -/
theorem decode?_lower (bytes : List UInt8) :
    decode? (bytes.map lowerByte) = (decode? bytes).map (List.map Char.toLower) := by
  cases hd : decode? bytes with
  | some text =>
    rw [decode?_eq_some_iff] at hd
    rw [← hd, ← encode_toLower, decode?_encode, Option.map_some]
  | none =>
    cases hl : decode? (bytes.map lowerByte) with
    | none => rfl
    | some text =>
      obtain ⟨text', he⟩ := exists_of_lower_encode (decode?_eq_some_iff.1 hl).symm
      rw [decode?_eq_some_iff.2 he] at hd
      cases hd

end Utf8
end Switchyard.Text
