import Mathlib.Data.List.Infix
import Switchyard.Proofs.Rpc.Grammar
import Switchyard.Rpc.Message

namespace Switchyard.Rpc

/-- Reading frame after frame, until the stream is over or reading fails. -/
inductive Reads : List UInt8 → List Json → StreamEnd → Prop where
  | clean {bytes : List UInt8} : scan true bytes = .finished → Reads bytes [] .clean
  | failed {bytes : List UInt8} {e : FrameError} : scan true bytes = .failed e →
      Reads bytes [] (.failed e)
  | frame {bytes rest : List UInt8} {v : Json} {vs : List Json} {stop : StreamEnd} :
      scan true bytes = .found v rest → Reads rest vs stop → Reads bytes (v :: vs) stop

variable {bytes frame rest tail : List UInt8} {parts : List (List UInt8)} {v : Json}
  {vs : List Json} {stop : StreamEnd}

theorem readAll_of_found (h : scan true bytes = .found v rest) :
    readAll bytes = (v :: (readAll rest).1, (readAll rest).2) := by
  rw [readAll.eq_def]
  split <;> simp_all

theorem readAll_of_finished (h : scan true bytes = .finished) : readAll bytes = ([], .clean) := by
  rw [readAll.eq_def]
  split <;> simp_all

theorem readAll_of_failed {e : FrameError} (h : scan true bytes = .failed e) :
    readAll bytes = ([], .failed e) := by
  rw [readAll.eq_def]
  split <;> simp_all

theorem Reads.readAll_eq (h : Reads bytes vs stop) : readAll bytes = (vs, stop) := by
  induction h with
  | clean h => exact readAll_of_finished h
  | failed h => exact readAll_of_failed h
  | frame h _ ih => rw [readAll_of_found h, ih]

theorem reads_readAll (bytes : List UInt8) : Reads bytes (readAll bytes).1 (readAll bytes).2 := by
  fun_induction readAll bytes with
  | case1 bytes v rest h vs stop he ih =>
    rw [he] at ih
    exact .frame h ih
  | case2 bytes e h => exact .failed h
  | case3 bytes h => exact .clean h
  | case4 bytes h => exact absurd h scan_ne_unfinished

theorem reads_iff : Reads bytes vs stop ↔ readAll bytes = (vs, stop) := by
  constructor
  · exact Reads.readAll_eq
  · intro h
    have hr := reads_readAll bytes
    rwa [h] at hr

/-- A stream gives a frame just if one stands at its front, is over just if nothing is left, and
fails in all other cases; and it is read to one end, by way of a list of frames. -/
theorem frames_exact (bytes : List UInt8) :
    (scan true bytes = .finished ↔ bytes = []) ∧
      (∀ v rest, scan true bytes = .found v rest ↔
        ∃ frame, frame ≠ [] ∧ IsFrame frame v ∧ bytes = frame ++ rest) ∧
      ((∃ e, scan true bytes = .failed e) ↔
        bytes ≠ [] ∧ ¬ ∃ frame v rest, IsFrame frame v ∧ bytes = frame ++ rest) ∧
      scan true bytes ≠ .unfinished ∧
      ∀ vs stop, Reads bytes vs stop ↔ readAll bytes = (vs, stop) := by
  refine ⟨scan_finished_iff, ?_, scan_failed_iff, scan_ne_unfinished, fun vs stop => reads_iff⟩
  intro v rest
  rw [scan_eq_found_iff]
  constructor
  · rintro ⟨frame, hf, he⟩
    exact ⟨frame, hf.ne_nil, hf, he⟩
  · rintro ⟨frame, -, hf, he⟩
    exact ⟨frame, hf, he⟩

def NoFrame (bytes : List UInt8) : Prop :=
  ¬ ∃ frame v rest, IsFrame frame v ∧ bytes = frame ++ rest

theorem noFrame_iff : NoFrame bytes ↔ ∀ v rest, scan true bytes ≠ .found v rest := by
  constructor
  · intro h v rest hs
    obtain ⟨frame, hf, he⟩ := scan_eq_found_iff.1 hs
    exact h ⟨frame, v, rest, hf, he⟩
  · rintro h ⟨frame, v, rest, hf, he⟩
    exact h v rest (scan_eq_found_iff.2 ⟨frame, hf, he⟩)

theorem NoFrame.readAll_fst (h : NoFrame bytes) : (readAll bytes).1 = [] := by
  cases hs : scan true bytes with
  | found v rest => exact absurd hs (noFrame_iff.1 h v rest)
  | finished => rw [readAll_of_finished hs]
  | unfinished => exact absurd hs scan_ne_unfinished
  | failed e => rw [readAll_of_failed hs]

theorem NoFrame.readAll_clean_iff (h : NoFrame bytes) :
    (readAll bytes).2 = .clean ↔ bytes = [] := by
  rw [← scan_finished_iff]
  cases hs : scan true bytes with
  | found v rest => exact absurd hs (noFrame_iff.1 h v rest)
  | finished => simp [readAll_of_finished hs]
  | unfinished => exact absurd hs scan_ne_unfinished
  | failed e => simp [readAll_of_failed hs]

theorem readAll_append (h : List.Forall₂ IsFrame parts vs) (tail : List UInt8) :
    readAll (parts.flatten ++ tail) = (vs ++ (readAll tail).1, (readAll tail).2) := by
  induction h with
  | nil => rfl
  | @cons part v _ _ hf _ ih =>
    rw [List.flatten_cons, List.append_assoc,
      readAll_of_found (scan_eq_found_iff.2 ⟨part, hf, rfl⟩), ih]
    rfl

/-- A stream is the frames that are read from it, and bytes that do not begin with a frame. -/
theorem Reads.exists_parts (h : Reads bytes vs stop) :
    ∃ parts tail, bytes = parts.flatten ++ tail ∧ List.Forall₂ IsFrame parts vs ∧ NoFrame tail := by
  induction h with
  | clean h =>
    have hn : NoFrame _ := noFrame_iff.2 fun v rest hs => by cases h.symm.trans hs
    exact ⟨[], _, rfl, .nil, hn⟩
  | failed h =>
    have hn : NoFrame _ := noFrame_iff.2 fun v rest hs => by cases h.symm.trans hs
    exact ⟨[], _, rfl, .nil, hn⟩
  | frame h _ ih =>
    obtain ⟨parts, tail, rfl, hp, hn⟩ := ih
    obtain ⟨part, hf, rfl⟩ := scan_eq_found_iff.1 h
    refine ⟨part :: parts, tail, ?_, .cons hf hp, hn⟩
    rw [List.flatten_cons, List.append_assoc]

/-- A stream is cut off after `p`: some frames lie before the cut, and the bytes between them and
the cut do not begin with one. -/
structure Cut (p t : List UInt8) (before after : List (List UInt8)) (tail : List UInt8) : Prop where
  prefix_eq : p = before.flatten ++ tail
  noFrame : NoFrame tail
  before_frames : List.Forall₂ IsFrame before (readAll p).1
  after_frames : List.Forall₂ IsFrame after (readAll (tail ++ t)).1
  after_prefix : after.flatten <+: tail ++ t

theorem exists_cut (p t : List UInt8) : ∃ before after tail, Cut p t before after tail := by
  obtain ⟨before, tail, hp, hb, hn⟩ := (reads_readAll p).exists_parts
  obtain ⟨after, rest, ht, ha, -⟩ := (reads_readAll (tail ++ t)).exists_parts
  exact ⟨before, after, tail, hp, hn, hb, ha, rest, ht.symm⟩

namespace Cut

variable {p t : List UInt8} {before after : List (List UInt8)}

theorem readAll_prefix (h : Cut p t before after tail) :
    readAll p = ((readAll p).1, (readAll tail).2) := by
  have hr := readAll_append h.before_frames tail
  rw [← h.prefix_eq, h.noFrame.readAll_fst, List.append_nil] at hr
  exact hr

theorem readAll_whole (h : Cut p t before after tail) :
    readAll (p ++ t) = ((readAll p).1 ++ (readAll (tail ++ t)).1, (readAll (tail ++ t)).2) := by
  have hr := readAll_append h.before_frames (tail ++ t)
  rwa [← List.append_assoc, ← h.prefix_eq] at hr

theorem whole_frames (h : Cut p t before after tail) :
    List.Forall₂ IsFrame (before ++ after) (readAll (p ++ t)).1 := by
  rw [h.readAll_whole]
  exact List.rel_append h.before_frames h.after_frames

theorem whole_prefix (h : Cut p t before after tail) : (before ++ after).flatten <+: p ++ t := by
  rw [List.flatten_append, h.prefix_eq, List.append_assoc]
  exact (List.prefix_append_right_inj _).2 h.after_prefix

theorem take_prefix_iff (h : Cut p t before after tail) {i : Nat}
    (hi : i ≤ (before ++ after).length) :
    ((before ++ after).take i).flatten <+: p ↔ i ≤ before.length := by
  constructor
  · intro hp
    by_contra hlt
    -- the next frame would begin the bytes between the last frame and the cut
    obtain ⟨j, rfl⟩ := Nat.exists_eq_add_of_lt (Nat.lt_of_not_le hlt)
    cases after with
    | nil =>
      rw [List.append_nil] at hi
      omega
    | cons part after =>
      obtain ⟨v, vs, hf, -, -⟩ := List.forall₂_cons_left_iff.1 h.after_frames
      rw [h.prefix_eq, Nat.add_assoc, List.take_length_add_append, List.take_succ_cons,
        List.flatten_append, List.flatten_cons, List.prefix_append_right_inj] at hp
      obtain ⟨rest, hr⟩ := (List.prefix_append part _).trans hp
      exact h.noFrame ⟨part, v, rest, hf, hr.symm⟩
  · intro hle
    rw [List.take_append_of_le_length hle, h.prefix_eq]
    apply List.IsPrefix.trans _ (List.prefix_append before.flatten tail)
    exact List.IsPrefix.flatten (List.take_prefix i before)

theorem readAll_clean_iff (h : Cut p t before after tail) :
    (readAll p).2 = .clean ↔
      ∃ k ≤ (before ++ after).length, p = ((before ++ after).take k).flatten := by
  rw [h.readAll_prefix, h.noFrame.readAll_clean_iff]
  constructor
  · rintro rfl
    refine ⟨before.length, by simp, ?_⟩
    rw [List.take_left, h.prefix_eq, List.append_nil]
  · rintro ⟨k, hk, hp⟩
    have hle := (h.take_prefix_iff hk).1 (hp ▸ List.prefix_rfl)
    rw [List.take_append_of_le_length hle] at hp
    have hlen := (List.IsPrefix.flatten (List.take_prefix k before)).length_le
    rw [← hp, h.prefix_eq, List.length_append] at hlen
    exact List.eq_nil_of_length_eq_zero (by omega)

end Cut

theorem nextMessage_of_found {ended : Bool} (h : scan ended bytes = .found v rest) :
    nextMessage ended bytes =
      match Incoming.classify? v with
      | some m => .found m rest
      | none => nextMessage ended rest := by
  rw [nextMessage.eq_def]
  split
  · rename_i frame tail hs
    cases hs.symm.trans h
    rfl
  all_goals simp_all

theorem nextMessage_of_finished {ended : Bool} (h : scan ended bytes = .finished) :
    nextMessage ended bytes = .finished := by
  rw [nextMessage.eq_def]
  split <;> simp_all

theorem nextMessage_of_failed {ended : Bool} {e : FrameError} (h : scan ended bytes = .failed e) :
    nextMessage ended bytes = .failed e := by
  rw [nextMessage.eq_def]
  split <;> simp_all

theorem nextMessage_rest_length {ended : Bool} {m : Incoming}
    (h : nextMessage ended bytes = .found m rest) : rest.length < bytes.length := by
  fun_induction nextMessage ended bytes with
  | case1 bytes frame tail hs n hc =>
    cases h
    exact scan_rest_length hs
  | case2 bytes frame tail hs hc ih => exact Nat.lt_trans (ih h) (scan_rest_length hs)
  | case3 | case4 | case5 => cases h

def messages (bytes : List UInt8) : List Incoming × StreamEnd :=
  match _h : nextMessage true bytes with
  | .found m rest => (m :: (messages rest).1, (messages rest).2)
  | .failed e => ([], .failed e)
  | .finished | .unfinished => ([], .clean)
termination_by bytes.length
decreasing_by all_goals exact nextMessage_rest_length _h

theorem messages_of_eq {other : List UInt8} (h : nextMessage true bytes = nextMessage true other) :
    messages bytes = messages other := by
  rw [messages.eq_def, messages.eq_def other]
  split <;> split <;> simp_all

theorem messages_of_found {m : Incoming} (h : nextMessage true bytes = .found m rest) :
    messages bytes = (m :: (messages rest).1, (messages rest).2) := by
  rw [messages.eq_def]
  split <;> simp_all

theorem Reads.messages_eq (h : Reads bytes vs stop) :
    messages bytes = (vs.filterMap Incoming.classify?, stop) := by
  induction h with
  | clean h =>
    have hn := nextMessage_of_finished h
    rw [messages.eq_def]
    split <;> simp_all
  | failed h =>
    have hn := nextMessage_of_failed h
    rw [messages.eq_def]
    split <;> simp_all
  | @frame bytes rest v vs stop h _ ih =>
    have hn := nextMessage_of_found h
    cases hc : Incoming.classify? v with
    | some m =>
      rw [hc] at hn
      rw [messages_of_found hn, ih, List.filterMap_cons_some hc]
    | none =>
      rw [hc] at hn
      rw [messages_of_eq hn, ih, List.filterMap_cons_none hc]

theorem messages_eq (bytes : List UInt8) :
    messages bytes = ((readAll bytes).1.filterMap Incoming.classify?, (readAll bytes).2) :=
  (reads_readAll bytes).messages_eq

/-- What is read from a stream that is cut off after `p`. `parts` are the frames of the whole
stream, of which `k` lie before the cut. -/
theorem truncated_exact (p t : List UInt8) :
    ∃ parts, List.Forall₂ IsFrame parts (readAll (p ++ t)).1 ∧ parts.flatten <+: p ++ t ∧
      (∃ k ≤ parts.length, (readAll p).1 = (readAll (p ++ t)).1.take k ∧
        ∀ i ≤ parts.length, (parts.take i).flatten <+: p ↔ i ≤ k) ∧
      ((readAll p).2 = .clean ↔ ∃ k ≤ parts.length, p = (parts.take k).flatten) ∧
      ((∃ e, (readAll p).2 = .failed e) ↔ ¬ ∃ k ≤ parts.length, p = (parts.take k).flatten) ∧
      (messages p).1 <+: (messages (p ++ t)).1 ∧ (messages p).2 = (readAll p).2 := by
  obtain ⟨before, after, tail, h⟩ := exists_cut p t
  refine ⟨before ++ after, h.whole_frames, h.whole_prefix, ⟨before.length, ?_, ?_, ?_⟩,
    h.readAll_clean_iff, ?_, ?_, ?_⟩
  · rw [List.length_append]
    exact Nat.le_add_right _ _
  · rw [h.readAll_whole, h.before_frames.length_eq, List.take_left]
  · exact fun i hi => h.take_prefix_iff hi
  · rw [← h.readAll_clean_iff]
    cases (readAll p).2 <;> simp
  · rw [messages_eq, messages_eq, h.readAll_whole, List.filterMap_append]
    exact List.prefix_append _ _
  · rw [messages_eq]

end Switchyard.Rpc
