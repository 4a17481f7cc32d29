import Switchyard.Proofs.Rpc.Streams

namespace Switchyard.Rpc

/-- A value whose text is no longer than a frame may be, and is read back as the value. -/
structure Sendable (j : Json) : Prop where
  size : (Text.Utf8.ofString j.render).length ≤ maxFrameBytes
  parses : Json.parse? j.render.toList = some j

section Header

variable {n : Nat}

theorem not_isBlank_toDigits {c : Char} (h : c ∈ Nat.toDigits 10 n) : Text.isBlank c = false :=
  Text.isBlank_of_isDigit (Nat.isDigit_of_mem_toDigits (by omega) (by omega) h)

theorem trim_toDigits (n : Nat) : Text.trim (' ' :: Nat.toDigits 10 n) = Nat.toDigits 10 n := by
  have ht : Text.trim ([' '] ++ Nat.toDigits 10 n ++ []) = Nat.toDigits 10 n := by
    apply Text.trim_append
    · simp [Text.isBlank]
    · intro c hc
      cases hc
    · exact fun c hc => not_isBlank_toDigits (List.mem_of_mem_head? hc)
    · exact fun c hc => not_isBlank_toDigits (List.mem_of_mem_getLast? hc)
  rwa [List.append_nil] at ht

def lengthField (n : Nat) : Field := ⟨"Content-Length".toList, ' ' :: Nat.toDigits 10 n⟩

theorem isLength_lengthField (n : Nat) : (lengthField n).isLength = true := by
  have h : ((Text.trim "Content-Length".toList).map Char.toLower == "content-length".toList) =
    true := by decide +kernel
  exact h

theorem hasLength_lengthField (h : n ≤ maxFrameBytes) : (lengthField n).HasLength n := by
  have ht : Text.trim (lengthField n).value = Nat.toDigits 10 n := trim_toDigits n
  unfold Field.HasLength
  rw [ht]
  exact Natural.isNumeral_toDigits (Nat.lt_of_le_of_lt h (by decide))

def lengthText (n : Nat) : List Char := (lengthField n).name ++ ':' :: (lengthField n).value

theorem lengthText_eq (n : Nat) :
    lengthText n = "Content-Length".toList ++ [':', ' '] ++ Nat.toDigits 10 n := by
  rw [List.append_assoc]
  rfl

theorem newline_not_mem_lengthText (n : Nat) : '\n' ∉ lengthText n := by
  rw [lengthText_eq]
  intro h
  obtain h | h := List.mem_append.1 h
  · exact absurd h (by decide)
  · exact absurd (not_isBlank_toDigits h) (by decide)

theorem trim_lengthText (n : Nat) : Text.trim (lengthText n ++ ['\r', '\n']) = lengthText n := by
  have ht : Text.trim ([] ++ lengthText n ++ ['\r', '\n']) = lengthText n := by
    apply Text.trim_append
    · intro c hc
      cases hc
    · simp [Text.isBlank]
    · intro c hc
      cases hc
      rfl
    · intro c hc
      rw [lengthText_eq, List.getLast?_append_of_ne_nil _ Nat.toDigits_ne_nil] at hc
      exact not_isBlank_toDigits (List.mem_of_mem_getLast? hc)
  exact ht

theorem isOn_lengthField (n : Nat) :
    (lengthField n).IsOn (Text.Utf8.encode (lengthText n ++ ['\r', '\n'])) := by
  have hn : '\n' ∉ lengthText n ++ ['\r'] := by simp [newline_not_mem_lengthText]
  have hl := Text.isLine_encode hn
  rw [List.append_assoc] at hl
  exact ⟨_, hl, trim_lengthText n, (by decide : ':' ∉ "Content-Length".toList)⟩

theorem isBlankLine_break : IsBlankLine (Text.Utf8.encode ['\r', '\n']) :=
  ⟨_, Text.isLine_encode (by decide : '\n' ∉ ['\r']), by decide⟩

theorem toList_header (n : Nat) : ("Content-Length: " ++ toString n ++ "\r\n\r\n").toList =
    lengthText n ++ ['\r', '\n'] ++ ['\r', '\n'] := by
  rw [lengthText_eq]
  simp

theorem isHeader_write (h : n ≤ maxFrameBytes) :
    IsHeader (Text.Utf8.ofString ("Content-Length: " ++ toString n ++ "\r\n\r\n")) n := by
  have hf : [lengthField n].filter Field.isLength = [lengthField n] := by
    rw [List.filter_cons_of_pos (isLength_lengthField n), List.filter_nil]
  refine ⟨[lengthField n], [_], _, ?_, .cons (isOn_lengthField n) .nil, isBlankLine_break, [n], ?_,
    rfl⟩
  · rw [Text.Utf8.ofString, toList_header, Text.Utf8.encode_append, List.flatten_singleton]
  · rw [hf]
    exact .cons (hasLength_lengthField h) .nil

end Header

theorem Sendable.isFrame {j : Json} (h : Sendable j) : IsFrame (write j) j :=
  ⟨_, _, rfl, isHeader_write h.size, h.size, j.render.toList, rfl, h.parses⟩

theorem Sendable.scan_write {j : Json} (h : Sendable j) (ended : Bool) (rest : List UInt8) :
    scan ended (write j ++ rest) = .found j rest :=
  scan_eq_found_iff.2 ⟨_, h.isFrame, rfl⟩

def readFrames (ended : Bool) : Nat → List UInt8 → Option (List Json × List UInt8)
  | 0, bytes => some ([], bytes)
  | n + 1, bytes =>
    match scan ended bytes with
    | .found v rest => (readFrames ended n rest).map fun r => (v :: r.1, r.2)
    | _ => none

theorem readFrames_write (ended : Bool) {js : List Json} (h : ∀ j ∈ js, Sendable j)
    (rest : List UInt8) :
    readFrames ended js.length (js.flatMap write ++ rest) = some (js, rest) := by
  induction js with
  | nil => rfl
  | cons j js ih =>
    have hs := (h j List.mem_cons_self).scan_write ended (js.flatMap write ++ rest)
    rw [List.flatMap_cons, List.append_assoc, List.length_cons, readFrames, hs]
    simp only [ih fun j hj => h j (List.mem_cons_of_mem _ hj), Option.map_some]

theorem classify?_request (id : Nat) (method : String) (params : Option Json) :
    Incoming.classify? (request id method params) = some (.request (.nat id) method params) := by
  cases params <;>
    simp [Incoming.classify?, request, Json.present, Json.get?_ofMembers, Json.lookup_member,
      Json.str?]

theorem classify?_notification (method : String) (params : Option Json) :
    Incoming.classify? (notification method params) = some (.notification method params) := by
  cases params <;>
    simp [Incoming.classify?, notification, Json.present, Json.get?_ofMembers, Json.lookup_member,
      Json.str?]

theorem classify?_response {frame : Json} {id : Nat} (hi : frame.get? "id" = some (.nat id))
    (h : id < Nat.pow 2 64) (hm : frame.get? "method" = none)
    (hr : ((frame.get? "result").isSome || (frame.get? "error").isSome) = true) :
    Incoming.classify? frame = some (.response id frame) := by
  have hu := Json.u64?_nat (by decide) h
  simp [Incoming.classify?, hi, hm, hr, hu]

theorem classify?_reply {id : Nat} (h : id < Nat.pow 2 64) (method : String)
    (params : Option Json) :
    Incoming.classify? (reply (.nat id) method params) =
      some (.response id (reply (.nat id) method params)) := by
  apply classify?_response _ h
  all_goals
    unfold reply
    split
    · simp [Json.get?_ofMembers, Json.lookup_member]
    · split <;> simp [Json.get?_ofMembers, Json.lookup_member]

theorem Sendable.nextMessage_write {j : Json} {m : Incoming} (h : Sendable j)
    (hm : Incoming.classify? j = some m) (ended : Bool) (rest : List UInt8) :
    nextMessage ended (write j ++ rest) = .found m rest := by
  rw [nextMessage_of_found (h.scan_write ended rest), hm]

/-- As many frames are read as were written, and no byte more; and requests, notifications and
replies are read back as such. -/
theorem written_read_back (ended : Bool) (rest : List UInt8) :
    (∀ js : List Json, (∀ j ∈ js, Sendable j) →
      readFrames ended js.length (js.flatMap write ++ rest) = some (js, rest)) ∧
    (∀ id method params, Sendable (request id method params) →
      nextMessage ended (write (request id method params) ++ rest) =
        .found (.request (.nat id) method params) rest) ∧
    (∀ method params, Sendable (notification method params) →
      nextMessage ended (write (notification method params) ++ rest) =
        .found (.notification method params) rest) ∧
    ∀ id method params, id < Nat.pow 2 64 → Sendable (reply (.nat id) method params) →
      nextMessage ended (write (reply (.nat id) method params) ++ rest) =
        .found (.response id (reply (.nat id) method params)) rest := by
  refine ⟨?_, ?_, ?_, ?_⟩
  · intro js h
    exact readFrames_write ended h rest
  · intro id method params h
    exact h.nextMessage_write (classify?_request id method params) ended rest
  · intro method params h
    exact h.nextMessage_write (classify?_notification method params) ended rest
  · intro id method params hid h
    exact h.nextMessage_write (classify?_reply hid method params) ended rest

theorem shutdown_read_back :
    readFrames false 2 ([request 7 "shutdown" none, notification "exit" (some .null)].flatMap write
        ++ [13]) =
      some ([request 7 "shutdown" none, notification "exit" (some .null)], [13]) ∧
    nextMessage false (write (request 7 "shutdown" none) ++ [13]) =
      .found (.request (.nat 7) "shutdown" none) [13] ∧
    nextMessage false (write (notification "exit" (some .null)) ++ [13]) =
      .found (.notification "exit" (some .null)) [13] ∧
    nextMessage false (write (reply (.nat 7) "workspace/workspaceFolders" none) ++ [13]) =
      .found (.response 7 (reply (.nat 7) "workspace/workspaceFolders" none)) [13] := by
  have hrequest : Sendable (request 7 "shutdown" none) := ⟨by decide +kernel, by rfl⟩
  have hexit : Sendable (notification "exit" (some .null)) := ⟨by decide +kernel, by rfl⟩
  have hreply : Sendable (reply (.nat 7) "workspace/workspaceFolders" none) :=
    ⟨by decide +kernel, by rfl⟩
  have hall : ∀ j ∈ [request 7 "shutdown" none, notification "exit" (some .null)], Sendable j := by
    rw [List.forall_mem_cons, List.forall_mem_singleton]
    exact ⟨hrequest, hexit⟩
  obtain ⟨hframes, hr, hn, hp⟩ := written_read_back false [13]
  exact ⟨hframes _ hall, hr 7 _ _ hrequest, hn _ _ hexit, hp 7 _ _ (by decide) hreply⟩

end Switchyard.Rpc
