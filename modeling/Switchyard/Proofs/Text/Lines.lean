import Switchyard.Proofs.Text.Utf8
import Switchyard.Text.Blank
import Switchyard.Text.Lines

namespace Switchyard.Text

def IsLine (line : List UInt8) (text : List Char) : Prop :=
  ∃ front, line = front ++ [newline] ∧ newline ∉ front ∧ Utf8.encode text = line

variable {front line rest : List UInt8} {text : List Char}

theorem splitLine_join (bytes : List UInt8) :
    (splitLine bytes).1 ++ (splitLine bytes).2 = bytes := by
  induction bytes with
  | nil => rfl
  | cons b bytes ih =>
    by_cases hb : (b == newline) = true
    · simp [splitLine, hb]
    · simp [splitLine, hb, ih]

theorem splitLine_append (h : newline ∉ front) (rest : List UInt8) :
    splitLine (front ++ newline :: rest) = (front ++ [newline], rest) := by
  induction front with
  | nil => rfl
  | cons b front ih =>
    have hb : (b == newline) = false := beq_false_of_ne (List.ne_of_not_mem_cons h).symm
    simp [splitLine, hb, ih (List.not_mem_of_not_mem_cons h)]

/-- A line has no newline but its last byte; without one it is all that is left. -/
theorem splitLine_cases (bytes : List UInt8) :
    (∃ front, newline ∉ front ∧ (splitLine bytes).1 = front ++ [newline]) ∨
      newline ∉ (splitLine bytes).1 ∧ (splitLine bytes).2 = [] := by
  induction bytes with
  | nil => exact .inr ⟨nofun, rfl⟩
  | cons b bytes ih =>
    by_cases hb : b = newline
    · subst hb
      exact .inl ⟨[], nofun, rfl⟩
    · have hs : splitLine (b :: bytes) = (b :: (splitLine bytes).1, (splitLine bytes).2) := by
        simp [splitLine, hb]
      rw [hs]
      obtain ⟨front, hf, he⟩ | ⟨hn, hr⟩ := ih
      · refine .inl ⟨b :: front, ?_, ?_⟩
        · exact List.not_mem_cons_of_ne_of_not_mem (Ne.symm hb) hf
        · rw [he, List.cons_append]
      · exact .inr ⟨List.not_mem_cons_of_ne_of_not_mem (Ne.symm hb) hn, hr⟩

namespace IsLine

theorem splitLine (h : IsLine line text) (rest : List UInt8) :
    Text.splitLine (line ++ rest) = (line, rest) := by
  obtain ⟨front, rfl, hf, -⟩ := h
  rw [List.append_assoc]
  exact splitLine_append hf rest

theorem decode (h : IsLine line text) : Utf8.decode? line = some text := by
  obtain ⟨_, _, _, he⟩ := h
  exact Utf8.decode?_eq_some_iff.2 he

theorem ends (h : IsLine line text) : line.getLast? = some newline := by
  obtain ⟨front, rfl, -⟩ := h
  exact List.getLast?_concat

theorem ne_nil (h : IsLine line text) : line ≠ [] := by
  obtain ⟨front, rfl, -⟩ := h
  exact List.append_ne_nil_of_right_ne_nil front (List.cons_ne_nil _ _)

end IsLine

/-- The first line of a stream is one that is ended, or the stream is over after it. -/
theorem isLine_splitLine {bytes : List UInt8}
    (h : Utf8.decode? (splitLine bytes).1 = some text) :
    IsLine (splitLine bytes).1 text ∨ (splitLine bytes).2 = [] := by
  obtain ⟨front, hf, he⟩ | ⟨-, hr⟩ := splitLine_cases bytes
  · exact .inl ⟨front, he, hf, Utf8.decode?_eq_some_iff.1 h⟩
  · exact .inr hr

theorem newline_not_mem_encode (h : '\n' ∉ text) : newline ∉ Utf8.encode text := by
  intro hm
  obtain ⟨x, hx, hb⟩ := List.mem_flatMap.1 hm
  obtain ⟨b, he, hn⟩ | hall := (Utf8.sequence_encodeChar x).single_or
  · rw [he, List.mem_singleton] at hb
    have hx' : x = '\n' := by
      rw [← Char.ofNat_toNat x, ← hn, ← hb]
      rfl
    exact h (hx' ▸ hx)
  · exact absurd (hall newline hb) (by decide)

theorem isLine_encode (h : '\n' ∉ text) :
    IsLine (Utf8.encode (text ++ ['\n'])) (text ++ ['\n']) :=
  ⟨Utf8.encode text, Utf8.encode_append _ _, newline_not_mem_encode h, rfl⟩

theorem isBlank_of_isDigit {c : Char} (h : c.isDigit = true) : isBlank c = false := by
  obtain ⟨hl, hr⟩ : 48 ≤ c.toNat ∧ c.toNat ≤ 57 := by
    simpa [Char.isDigit, UInt32.le_iff_toNat_le] using h
  simp [isBlank]
  omega

theorem dropWhile_blank {core : List Char} (h : ∀ c ∈ core.head?, isBlank c = false) :
    core.dropWhile isBlank = core := by
  cases core with
  | nil => rfl
  | cons c core => rw [List.dropWhile_cons, h c rfl, if_neg Bool.false_ne_true]

theorem trim_append {before core after : List Char} (hb : ∀ c ∈ before, isBlank c = true)
    (ha : ∀ c ∈ after, isBlank c = true) (hfirst : ∀ c ∈ core.head?, isBlank c = false)
    (hlast : ∀ c ∈ core.getLast?, isBlank c = false) : trim (before ++ core ++ after) = core := by
  have hr : trimRight (core ++ after) = core := by
    rw [trimRight, List.reverse_append, List.dropWhile_append_of_pos, dropWhile_blank,
      List.reverse_reverse]
    · rwa [List.head?_reverse]
    · simpa using ha
  rw [trim, List.append_assoc, List.dropWhile_append_of_pos hb]
  cases core with
  | nil =>
    have hn : (after ++ []).dropWhile isBlank = [].dropWhile isBlank :=
      List.dropWhile_append_of_pos ha
    rw [List.append_nil] at hn
    rw [List.nil_append, hn]
    rfl
  | cons c core => rw [dropWhile_blank (by simpa using hfirst), hr]

end Switchyard.Text
