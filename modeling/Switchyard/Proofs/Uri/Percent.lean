import Switchyard.Uri.Segments

namespace Switchyard.Uri

theorem forall_byte {p : UInt8 → Bool}
    (h : (List.range 256).all (fun n => p (UInt8.ofNat n)) = true) (b : UInt8) : p b = true := by
  have hb := List.all_eq_true.1 h b.toNat (List.mem_range.2 b.toNat_lt)
  rwa [UInt8.ofNat_toNat] at hb

def isInert (c : Char) : Bool :=
  0x20 < c.toNat && c.toNat < 0x80 && c != '/' && c != '\\' && c != '?' && c != '#'

theorem inert_encodeByte (b : UInt8) : (encodeByte b).all isInert = true :=
  forall_byte (p := fun b => (encodeByte b).all isInert) (by decide +kernel) b

theorem inert_encode {bytes : List UInt8} {c : Char} (h : c ∈ encode bytes) : isInert c = true := by
  obtain ⟨b, _, hc⟩ := List.mem_flatMap.1 h
  exact List.all_eq_true.1 (inert_encodeByte b) c hc

theorem encodeByte_ne_nil (b : UInt8) : encodeByte b ≠ [] := by
  unfold encodeByte
  split
  · exact nofun
  · exact nofun

/-- Bytes are a byte as it stands, or a triple that stands for it. -/
def standFor (b : UInt8) : List UInt8 → Bool
  | [c] => c == b && b != 37
  | [p, high, low] => p == 37 && triple? 37 high low == some b
  | _ => false

theorem encodeByte_cases (b : UInt8) :
    (b ≠ 37 ∧ Text.Utf8.encode (encodeByte b) = [b]) ∨
      ∃ high low, Text.Utf8.encode (encodeByte b) = [37, high, low] ∧
        triple? 37 high low = some b := by
  have h := forall_byte (p := fun b => standFor b (Text.Utf8.encode (encodeByte b)))
    (by decide +kernel) b
  unfold standFor at h
  split at h
  · rename_i c hc
    obtain ⟨rfl, hb⟩ : c = b ∧ b ≠ 37 := by simpa using h
    exact .inl ⟨hb, hc⟩
  · rename_i p high low hp
    obtain ⟨rfl, ht⟩ : p = 37 ∧ triple? 37 high low = some b := by simpa using h
    exact .inr ⟨high, low, hp, ht⟩
  · cases h

theorem decodeBytes_cons {b : UInt8} (hb : b ≠ 37) (bytes : List UInt8) :
    decodeBytes (b :: bytes) = b :: decodeBytes bytes := by
  match bytes with
  | [] => rfl
  | [_] => rfl
  | c :: d :: rest =>
    have ht : triple? b c d = none := by
      unfold triple?
      rw [if_neg (by simpa using hb)]
    rw [decodeBytes, ht]

theorem decodeBytes_triple {b high low : UInt8} (h : triple? 37 high low = some b)
    (bytes : List UInt8) : decodeBytes (37 :: high :: low :: bytes) = b :: decodeBytes bytes := by
  rw [decodeBytes, h]

theorem decode_encode (bytes : List UInt8) : decode (encode bytes) = bytes := by
  induction bytes with
  | nil => rfl
  | cons b bytes ih =>
    have happ : Text.Utf8.encode (encode (b :: bytes)) =
        Text.Utf8.encode (encodeByte b) ++ Text.Utf8.encode (encode bytes) :=
      List.flatMap_append
    unfold decode at ih ⊢
    rw [happ]
    obtain ⟨hb, h⟩ | ⟨high, low, h, ht⟩ := encodeByte_cases b
    · rw [h, List.singleton_append, decodeBytes_cons hb, ih]
    · rw [h, List.cons_append, List.cons_append, List.singleton_append, decodeBytes_triple ht, ih]

theorem encode_ne_nil {bytes : List UInt8} (h : bytes ≠ []) : encode bytes ≠ [] := by
  cases bytes with
  | nil => exact absurd rfl h
  | cons b bytes =>
    intro he
    exact encodeByte_ne_nil b (List.append_eq_nil_iff.1 he).1

def isHonest (b : UInt8) : List Char → Bool
  | [c] => (b == 46 && c == '.') || (c != '.' && c != '%')
  | [p, high, low] => p == '%' && !(high == '2' && low == 'e')
  | _ => false

theorem lower_encodeByte (b : UInt8) :
    (b = 46 ∧ (encodeByte b).map Char.toLower = ['.']) ∨
      (∃ c, (encodeByte b).map Char.toLower = [c] ∧ c ≠ '.' ∧ c ≠ '%') ∨
      ∃ high low, (encodeByte b).map Char.toLower = ['%', high, low] ∧
        ¬ (high = '2' ∧ low = 'e') := by
  have h := forall_byte (p := fun b => isHonest b ((encodeByte b).map Char.toLower))
    (by decide +kernel) b
  unfold isHonest at h
  split at h
  · rename_i c hc
    obtain ⟨rfl, rfl⟩ | h : b = 46 ∧ c = '.' ∨ c ≠ '.' ∧ c ≠ '%' := by simpa using h
    · exact .inl ⟨rfl, hc⟩
    · exact .inr (.inl ⟨c, hc, h⟩)
  · rename_i p high low hp
    obtain ⟨rfl, hn⟩ : p = '%' ∧ (high ≠ '2' ∨ low ≠ 'e') := by simpa using h
    refine .inr (.inr ⟨high, low, hp, ?_⟩)
    intro hd
    exact hn.elim (absurd hd.1) (absurd hd.2)
  · cases h

theorem lower_encode_cons (b : UInt8) (bytes : List UInt8) :
    (encode (b :: bytes)).map Char.toLower =
      (encodeByte b).map Char.toLower ++ (encode bytes).map Char.toLower :=
  List.map_append

theorem lower_encode_dot {bytes : List UInt8} {cs : List Char}
    (h : (encode bytes).map Char.toLower = '.' :: cs) :
    ∃ rest, bytes = 46 :: rest ∧ (encode rest).map Char.toLower = cs := by
  cases bytes with
  | nil => cases h
  | cons b rest =>
    rw [lower_encode_cons] at h
    obtain ⟨rfl, hb⟩ | ⟨c, hb, hc, _⟩ | ⟨high, low, hb, _⟩ := lower_encodeByte b
    · rw [hb] at h
      exact ⟨rest, rfl, (List.cons.inj h).2⟩
    · rw [hb] at h
      exact absurd (List.cons.inj h).1 hc
    · rw [hb] at h
      cases (List.cons.inj h).1

theorem lower_encode_ne_triple {bytes : List UInt8} {cs : List Char} :
    (encode bytes).map Char.toLower ≠ '%' :: '2' :: 'e' :: cs := by
  intro h
  cases bytes with
  | nil => cases h
  | cons b rest =>
    rw [lower_encode_cons] at h
    obtain ⟨rfl, hb⟩ | ⟨c, hb, _, hc⟩ | ⟨high, low, hb, hn⟩ := lower_encodeByte b
    · rw [hb] at h
      cases (List.cons.inj h).1
    · rw [hb] at h
      exact hc (List.cons.inj h).1
    · rw [hb] at h
      obtain ⟨_, h⟩ := List.cons.inj h
      obtain ⟨h2, h⟩ := List.cons.inj h
      exact hn ⟨h2, (List.cons.inj h).1⟩

theorem lower_encode_nil {bytes : List UInt8} (h : (encode bytes).map Char.toLower = []) :
    bytes = [] := by
  cases bytes with
  | nil => rfl
  | cons b rest => exact absurd (List.map_eq_nil_iff.1 h) (encode_ne_nil (List.cons_ne_nil b rest))

theorem not_isSingleDot_encode {bytes : List UInt8} (hn : bytes ≠ [46]) :
    isSingleDot (encode bytes) = false := by
  apply eq_false_of_ne_true
  intro h
  obtain h | h : (encode bytes).map Char.toLower = ['.'] ∨
      (encode bytes).map Char.toLower = ['%', '2', 'e'] := by simpa [isSingleDot] using h
  · obtain ⟨rest, rfl, hr⟩ := lower_encode_dot h
    rw [lower_encode_nil hr] at hn
    exact hn rfl
  · exact lower_encode_ne_triple h

theorem not_isDoubleDot_encode {bytes : List UInt8} (hn : bytes ≠ [46, 46]) :
    isDoubleDot (encode bytes) = false := by
  apply eq_false_of_ne_true
  intro h
  obtain h | h | h | h : (encode bytes).map Char.toLower = ['.', '.'] ∨
      (encode bytes).map Char.toLower = ['.', '%', '2', 'e'] ∨
      (encode bytes).map Char.toLower = ['%', '2', 'e', '.'] ∨
      (encode bytes).map Char.toLower = ['%', '2', 'e', '%', '2', 'e'] := by
    simpa [isDoubleDot] using h
  · obtain ⟨rest, rfl, hr⟩ := lower_encode_dot h
    obtain ⟨tail, rfl, ht⟩ := lower_encode_dot hr
    rw [lower_encode_nil ht] at hn
    exact hn rfl
  · obtain ⟨rest, rfl, hr⟩ := lower_encode_dot h
    exact lower_encode_ne_triple hr
  · exact lower_encode_ne_triple h
  · exact lower_encode_ne_triple h

end Switchyard.Uri
