import Switchyard.Proofs.Rpc.Calls
import Switchyard.Proofs.Rpc.RoundTrip

namespace Switchyard.Rpc

def IsRequest (frame : Json) : Bool :=
  (frame.get? "id").isSome && ((frame.get? "method").bind Json.str?).isSome

/-- The items that a request asks the configuration of, none if there is no list of them. -/
def configurationItems (frame : Json) : List Json :=
  match (frame.get? "params").bind (·.get? "items") with
  | some (.arr items) => items
  | _ => []

structure Answers (frame r : Json) : Prop where
  id : ∃ id, frame.get? "id" = some id ∧ r.get? "id" = some id
  one : Xor ((r.get? "result").isSome = true) ((r.get? "error").isSome = true)
  configuration : frame.get? "method" = some (.str "workspace/configuration") →
    r.get? "result" = some (.arr (List.replicate (configurationItems frame).length .null))

def Incoming.answer? : Incoming → Option Json
  | .request id method params => some (reply id method params)
  | _ => none

def ClientEvent.message? : ClientEvent → Option Incoming
  | .dispatched m => some m
  | _ => none

def received : List ClientAction → List UInt8
  | [] => []
  | .receive bytes :: actions => bytes ++ received actions
  | .endStream :: _ => []
  | _ :: actions => received actions

theorem not_hasMethod_reply (id : Json) (method : String) (params : Option Json) :
    ¬ HasMethod (reply id method params) := by
  unfold reply HasMethod
  split
  · simp [Json.get?_ofMembers, Json.lookup_member]
  · split <;> simp [Json.get?_ofMembers, Json.lookup_member]

theorem configurationItems_eq (frame : Json) : configurationItems frame =
    (((frame.get? "params").bind (·.get? "items")).bind Json.arr?).getD [] := by
  unfold configurationItems
  cases (frame.get? "params").bind (·.get? "items") with
  | none => rfl
  | some items => cases items <;> rfl

theorem answers_reply {frame id : Json} {method : String} (hi : frame.get? "id" = some id)
    (hm : (frame.get? "method").bind Json.str? = some method) :
    Answers frame (reply id method (frame.get? "params")) where
  id := by
    refine ⟨id, hi, ?_⟩
    unfold reply
    split
    · simp [Json.get?_ofMembers, Json.lookup_member]
    · split <;> simp [Json.get?_ofMembers, Json.lookup_member]
  one := by
    unfold reply
    split
    · simp [Json.get?_ofMembers, Json.lookup_member, Xor]
    · split <;> simp [Json.get?_ofMembers, Json.lookup_member, Xor]
  configuration hc := by
    have he : method = "workspace/configuration" := by
      rw [hc] at hm
      exact (Option.some.inj hm).symm
    unfold reply
    dsimp only
    rw [if_pos he, ← configurationItems_eq]
    simp [Json.get?_ofMembers]

theorem isRequest_iff {frame : Json} : IsRequest frame = true ↔
    ∃ id method, frame.get? "id" = some id ∧
      (frame.get? "method").bind Json.str? = some method := by
  simp [IsRequest, Option.isSome_iff_exists]

def replyTo? (frame : Json) : Option Json := (Incoming.classify? frame).bind Incoming.answer?

theorem replyTo?_of_isRequest {frame : Json} (h : IsRequest frame = true) :
    ∃ r, replyTo? frame = some r ∧ Answers frame r := by
  obtain ⟨id, method, hi, hm⟩ := isRequest_iff.1 h
  refine ⟨_, ?_, answers_reply hi hm⟩
  rw [replyTo?, Incoming.classify?, hi, hm]
  rfl

theorem replyTo?_of_not_isRequest {frame : Json} (h : ¬ IsRequest frame = true) :
    replyTo? frame = none := by
  unfold replyTo? Incoming.classify?
  cases hi : frame.get? "id" with
  | none => cases (frame.get? "method").bind Json.str? <;> rfl
  | some id =>
    cases hm : (frame.get? "method").bind Json.str? with
    | none =>
      dsimp only
      split
      · cases id.u64? <;> rfl
      · rfl
    | some method => exact absurd (isRequest_iff.2 ⟨id, method, hi, hm⟩) h

theorem answers_replyTo? (vs : List Json) :
    List.Forall₂ Answers (vs.filter IsRequest) (vs.filterMap replyTo?) := by
  induction vs with
  | nil => exact .nil
  | cons v vs ih =>
    by_cases hv : IsRequest v = true
    · obtain ⟨r, hr, ha⟩ := replyTo?_of_isRequest hv
      rw [List.filter_cons_of_pos hv, List.filterMap_cons_some hr]
      exact .cons ha ih
    · rw [List.filter_cons_of_neg hv, List.filterMap_cons_none (replyTo?_of_not_isRequest hv)]
      exact ih

theorem filterMap_answer? (vs : List Json) :
    (vs.filterMap Incoming.classify?).filterMap Incoming.answer? = vs.filterMap replyTo? :=
  List.filterMap_filterMap

theorem parts_of_nextMessage {ended : Bool} {bytes rest : List UInt8} {m : Incoming}
    (h : nextMessage ended bytes = .found m rest) :
    ∃ parts vs, bytes = parts.flatten ++ rest ∧ List.Forall₂ IsFrame parts vs ∧
      vs.filterMap Incoming.classify? = [m] := by
  fun_induction nextMessage ended bytes with
  | case1 bytes frame tail hs n hc =>
    cases h
    obtain ⟨part, hf, rfl⟩ := scan_eq_found_iff.1 hs
    exact ⟨[part], [frame], by simp, .cons hf .nil, List.filterMap_cons_some hc⟩
  | case2 bytes frame tail hs hc ih =>
    obtain ⟨part, hf, rfl⟩ := scan_eq_found_iff.1 hs
    obtain ⟨parts, vs, rfl, hp, hv⟩ := ih h
    refine ⟨part :: parts, frame :: vs, ?_, .cons hf hp, ?_⟩
    · rw [List.flatten_cons, List.append_assoc]
    · rw [List.filterMap_cons_none hc, hv]
  | case3 | case4 | case5 => cases h

def ReaderStage.reply? : ReaderStage → Option Json
  | .replying r => some r
  | _ => none

namespace Client

variable {c c' : Client} {bytes : List UInt8} {a : ClientAction}

def dispatched (c : Client) : List Incoming := c.history.reverse.filterMap ClientEvent.message?

/-- The replies among the frames that were put into the queue so far. -/
def replies (c : Client) : List Json := c.queued.filter fun frame => (frame.get? "method").isNone

/-- The frames of the bytes that were taken from the stream, and the messages among them. -/
def Heard (bytes : List UInt8) (c : Client) (vs : List Json) : Prop :=
  ∃ parts, bytes = parts.flatten ++ c.unread ∧ List.Forall₂ IsFrame parts vs ∧
    c.dispatched = vs.filterMap Incoming.classify?

def Replied (c : Client) : Prop :=
  c.replies ++ c.reader.reply?.toList = c.dispatched.filterMap Incoming.answer?

/-- The queue holds the last of the frames that were put into it. -/
structure Works (c : Client) : Prop where
  room : c.queue.length ≤ queueLimit
  queue : c.queue <:+ c.queued

theorem replies_of_moves (h : Moves c c') : c'.replies = c.replies := by
  obtain ⟨frames, hm, hn, -⟩ := h.queue
  have hf : frames.filter (fun frame => (frame.get? "method").isNone) = [] := by
    rw [List.filter_eq_nil_iff]
    intro frame hframe hnone
    rw [Option.isNone_iff_eq_none] at hnone
    have hsome := hm frame hframe
    rw [HasMethod, hnone] at hsome
    cases hsome
  rw [replies, hn, List.filter_append, hf, List.append_nil]
  rfl

theorem dispatched_of_moves (h : Moves c c') : c'.dispatched = c.dispatched := by
  obtain ⟨new, hn, he⟩ := h.events
  have hd : new.reverse.filterMap ClientEvent.message? = [] := by
    rw [List.filterMap_eq_nil_iff]
    intro e hm
    have hmine := he e (List.mem_reverse.1 hm)
    cases e with
    | dispatched m => exact hmine.elim
    | _ => rfl
  rw [dispatched, hn, List.reverse_append, List.filterMap_append, hd, List.append_nil]
  rfl

theorem replied_of_moves (hm : Moves c c') (h : c.Replied) : c'.Replied := by
  rwa [Replied, replies_of_moves hm, hm.reader, dispatched_of_moves hm]

theorem works_of_moves (hm : Moves c c') (h : c.Works) : c'.Works where
  room := hm.room h.room
  queue := by
    obtain ⟨frames, -, hn, hq⟩ := hm.queue
    obtain ⟨written, hw⟩ := h.queue
    exact ⟨written, by rw [hn, hq, ← hw, List.append_assoc]⟩

theorem dispatched_push (c : Client) (e : ClientEvent) :
    (c.push e).dispatched = c.dispatched ++ e.message?.toList := by
  rw [dispatched, push, List.reverse_cons, List.filterMap_append]
  cases e <;> rfl

/-- The reader goes on: it takes a message from the stream, puts a reply into the queue, or does
neither. -/
inductive Reads (c : Client) : Client → Prop
  | found {m : Incoming} {rest : List UInt8} (hs : c.reader = .reading)
    (hn : nextMessage c.ended c.unread = .found m rest) :
    Reads c ({ c with unread := rest }.dispatch m)
  | reply {r : Json} (hs : c.reader = .replying r) : Reads c (c.offerReply r)
  | other {d : Client} (hu : d.unread = c.unread) (hq : d.queue = c.queue)
    (hw : d.writerOpen = c.writerOpen) (hs : d.reader.reply? = c.reader.reply?)
    (he : ∃ new, d.history = new ++ c.history ∧
      ∀ e ∈ new, e.message? = none ∧ e.frame? = none) :
    Reads c d

theorem reads (c : Client) : Reads c c.read := by
  have same {d : Client} (hu : d.unread = c.unread) (hq : d.queue = c.queue)
      (hw : d.writerOpen = c.writerOpen) (hs : d.reader.reply? = c.reader.reply?)
      (hh : d.history = c.history) : Reads c d :=
    .other hu hq hw hs ⟨[], hh, List.forall_mem_nil _⟩
  have one {d : Client} {e : ClientEvent} (hu : d.unread = c.unread) (hq : d.queue = c.queue)
      (hw : d.writerOpen = c.writerOpen) (hs : d.reader.reply? = c.reader.reply?)
      (hh : d.history = e :: c.history) (he : e.message? = none ∧ e.frame? = none) : Reads c d :=
    .other hu hq hw hs ⟨[e], hh, List.forall_mem_singleton.2 he⟩
  unfold read
  split
  · rename_i hs
    split
    · rename_i m rest hn
      exact .found hs hn
    · exact same rfl rfl rfl (by rw [hs]; rfl) rfl
    · exact same rfl rfl rfl (by rw [hs]; rfl) rfl
    · exact same rfl rfl rfl rfl rfl
  · rename_i r hs
    exact .reply hs
  · rename_i hs
    exact one rfl rfl rfl (by rw [hs]; rfl) rfl ⟨rfl, rfl⟩
  · rename_i handler reason hs
    refine one rfl rfl rfl ?_ rfl ⟨rfl, rfl⟩
    rw [hs]
    cases handler <;> rfl
  · rename_i hs
    exact one rfl rfl rfl (by rw [hs]; rfl) rfl ⟨rfl, rfl⟩
  · exact same rfl rfl rfl rfl rfl

theorem queued_of_silent {new : List ClientEvent} (hn : c'.history = new ++ c.history)
    (he : ∀ e ∈ new, e.message? = none ∧ e.frame? = none) : c'.queued = c.queued := by
  have hf : new.reverse.filterMap ClientEvent.frame? = [] :=
    List.filterMap_eq_nil_iff.2 fun e hm => (he e (List.mem_reverse.1 hm)).2
  rw [queued, hn, List.reverse_append, List.filterMap_append, hf, List.append_nil]
  rfl

theorem dispatched_of_silent {new : List ClientEvent} (hn : c'.history = new ++ c.history)
    (he : ∀ e ∈ new, e.message? = none ∧ e.frame? = none) : c'.dispatched = c.dispatched := by
  have hm : new.reverse.filterMap ClientEvent.message? = [] :=
    List.filterMap_eq_nil_iff.2 fun e hm => (he e (List.mem_reverse.1 hm)).1
  rw [dispatched, hn, List.reverse_append, List.filterMap_append, hm, List.append_nil]
  rfl

theorem queue_dispatch (c : Client) (m : Incoming) :
    (c.dispatch m).queue = c.queue ∧ (c.dispatch m).queued = c.queued := by
  have hq : (c.push (.dispatched m)).queued = c.queued :=
    (queued_push c _).trans (List.append_nil _)
  cases m with
  | response id body =>
    rw [dispatch]
    split <;> exact ⟨rfl, hq⟩
  | request id method params => exact ⟨rfl, hq⟩
  | notification method params =>
    rw [dispatch]
    split <;> exact ⟨rfl, hq⟩

theorem Reads.works (hc : Reads c c') (h : c.Works) : c'.Works := by
  cases hc with
  | @found m rest hs hn =>
    obtain ⟨hq, hd⟩ := queue_dispatch { c with unread := rest } m
    refine ⟨?_, ?_⟩
    · rw [hq]
      exact h.room
    · rw [hq, hd]
      exact h.queue
  | @reply r hs =>
    unfold offerReply
    split
    · exact ⟨h.room, h.queue⟩
    · split
      · exact h
      · rename_i hf
        let free : Client := { c with reader := .reading }
        have hq : (free.enqueue r).queued = c.queued ++ [r] := queued_enqueue free r
        obtain ⟨written, hw⟩ := h.queue
        refine ⟨length_enqueue (c := free) (Bool.eq_false_iff.2 hf), ⟨written, ?_⟩⟩
        rw [hq, ← hw, List.append_assoc]
        rfl
  | other hu hq hw hs he =>
    obtain ⟨new, hn, he⟩ := he
    refine ⟨hq ▸ h.room, ?_⟩
    rw [hq, queued_of_silent hn he]
    exact h.queue

theorem not_hasMethod_of_answer? {m : Incoming} {r : Json} (h : m.answer? = some r) :
    ¬ HasMethod r := by
  cases m with
  | request id method params =>
    cases h
    exact not_hasMethod_reply id method params
  | response | notification => cases h

theorem replied_offerReply {r : Json} (ho : c.writerOpen = true) (hs : c.reader = .replying r)
    (h : c.Replied) : (c.offerReply r).Replied := by
  have hopen : ¬ (!c.writerOpen) = true := by simp [ho]
  rw [offerReply, if_neg hopen]
  split
  · exact h
  · rw [Replied, hs] at h
    have hm : r ∈ c.dispatched.filterMap Incoming.answer? :=
      h ▸ List.mem_append_right _ List.mem_cons_self
    obtain ⟨m, -, ha⟩ := List.mem_filterMap.1 hm
    let free : Client := { c with reader := .reading }
    have hf : [r].filter (fun frame => (frame.get? "method").isNone) = [r] := by
      rw [List.filter_eq_self, List.forall_mem_singleton]
      simpa [HasMethod] using not_hasMethod_of_answer? ha
    have hq : (free.enqueue r).replies = c.replies ++ [r] := by
      rw [replies, queued_enqueue, List.filter_append, hf]
      rfl
    have hd : (free.enqueue r).dispatched = c.dispatched :=
      (dispatched_push _ (.queued r)).trans (List.append_nil _)
    have hn : (free.enqueue r).reader.reply? = none := rfl
    rw [Replied, hq, hd, hn]
    exact (List.append_nil _).trans h

theorem dispatched_dispatch (c : Client) (m : Incoming) :
    (c.dispatch m).dispatched = c.dispatched ++ [m] := by
  have hp := dispatched_push c (.dispatched m)
  cases m with
  | response id body =>
    rw [dispatch]
    split <;> exact hp
  | request id method params => exact hp
  | notification method params =>
    rw [dispatch]
    split <;> exact hp

theorem reply_dispatch (hs : c.reader = .reading) (m : Incoming) :
    (c.dispatch m).reader.reply? = m.answer? := by
  cases m with
  | response id body =>
    rw [dispatch]
    split <;> exact congrArg ReaderStage.reply? hs
  | request id method params => rfl
  | notification method params =>
    rw [dispatch]
    split
    · rfl
    · exact congrArg ReaderStage.reply? hs

theorem Reads.replied (hc : Reads c c') (ho : c.writerOpen = true) (h : c.Replied) :
    c'.Replied := by
  cases hc with
  | @found m rest hs hn =>
    have hr : ({ c with unread := rest }.dispatch m).replies = c.replies :=
      congrArg (List.filter _) (queue_dispatch { c with unread := rest } m).2
    have hd : ({ c with unread := rest } : Client).dispatched = c.dispatched := rfl
    rw [Replied, hs] at h
    rw [Replied, hr, reply_dispatch (c := { c with unread := rest }) hs, dispatched_dispatch, hd,
      List.filterMap_append, ← h]
    cases m <;> simp [ReaderStage.reply?, Incoming.answer?]
  | reply hs => exact replied_offerReply ho hs h
  | other hu hq hw hs he =>
    obtain ⟨new, hn, he⟩ := he
    rw [Replied, replies, queued_of_silent hn he, hs, dispatched_of_silent hn he]
    exact h

theorem unread_dispatch (c : Client) (m : Incoming) : (c.dispatch m).unread = c.unread := by
  cases m with
  | response id body =>
    rw [dispatch]
    split <;> rfl
  | request id method params => rfl
  | notification method params =>
    rw [dispatch]
    split <;> rfl

theorem Heard.of_eq {vs : List Json} (h : Heard bytes c vs) (hu : c'.unread = c.unread)
    (hd : c'.dispatched = c.dispatched) : Heard bytes c' vs := by
  rwa [Heard, hu, hd]

theorem heard_offerReply {vs : List Json} (h : Heard bytes c vs) (r : Json) :
    Heard bytes (c.offerReply r) vs := by
  unfold offerReply
  split
  · exact h
  · split
    · exact h
    · exact h.of_eq rfl ((dispatched_push _ (.queued r)).trans (List.append_nil _))

/-- The reader takes frames off what has come in, up to one that is a message. -/
theorem Reads.heard {vs : List Json} (hc : Reads c c') (h : Heard bytes c vs) :
    ∃ vs', Heard bytes c' vs' := by
  cases hc with
  | @found m rest hs hn =>
    obtain ⟨parts, hb, hp, hd⟩ := h
    obtain ⟨parts', vs', hu, hp', hm⟩ := parts_of_nextMessage hn
    refine ⟨vs ++ vs', parts ++ parts', ?_, List.rel_append hp hp', ?_⟩
    · rw [unread_dispatch, hb, hu, List.flatten_append, List.append_assoc]
    · rw [dispatched_dispatch, List.filterMap_append, hm, ← hd]
      rfl
  | reply hs => exact ⟨vs, heard_offerReply h _⟩
  | other hu hq hw hs he =>
    obtain ⟨new, hn, he⟩ := he
    exact ⟨vs, h.of_eq hu (dispatched_of_silent hn he)⟩

/-- What is nobody's turn and no reading leaves what was said and heard as it is. -/
structure Quiet (c d : Client) : Prop where
  queued : d.queued = c.queued
  dispatched : d.dispatched = c.dispatched
  queue : d.queue <:+ c.queue
  reader : d.reader = c.reader ∨ c.disposed = true
  writer : d.writerOpen = true → c.writerOpen = true
  disposed : c.disposed = true → d.disposed = true

theorem Quiet.of_history (hh : c'.history = c.history) (hq : c'.queue <:+ c.queue)
    (hr : c'.reader = c.reader ∨ c.disposed = true)
    (hw : c'.writerOpen = true → c.writerOpen = true)
    (hd : c.disposed = true → c'.disposed = true) : Quiet c c' := by
  refine ⟨?_, ?_, hq, hr, hw, hd⟩
  · rw [Client.queued, hh, Client.queued]
  · rw [Client.dispatched, hh, Client.dispatched]

theorem quiet_push {e : ClientEvent} (he : e.message? = none ∧ e.frame? = none) :
    Quiet c (c.push e) where
  queued := by rw [queued_push, he.2]; exact List.append_nil _
  dispatched := by rw [dispatched_push, he.1]; exact List.append_nil _
  queue := List.suffix_rfl
  reader := .inl rfl
  writer h := h
  disposed h := h

theorem quiet_step (ha : a.call? = none) (hread : a ≠ .read) : Quiet c (c.step a) := by
  have same {d : Client} (hh : d.history = c.history) (hq : d.queue = c.queue)
      (hr : d.reader = c.reader) (hw : d.writerOpen = c.writerOpen)
      (hd : d.disposal = c.disposal) : Quiet c d :=
    .of_history hh (hq ▸ List.suffix_rfl) (.inl hr) (fun h => hw ▸ h)
      fun h => by rwa [disposed, hd]
  cases a with
  | resume | expire => cases ha
  | read => exact absurd rfl hread
  | call | endStream | onNotification => exact same rfl rfl rfl rfl rfl
  | receive bytes =>
    rw [step]
    split <;> exact same rfl rfl rfl rfl rfl
  | write =>
    exact .of_history rfl (List.drop_suffix 1 c.queue) (.inl rfl) (fun h => h) fun h => h
  | failWrite =>
    rw [step]
    split
    · exact same rfl rfl rfl rfl rfl
    · exact .of_history rfl List.nil_suffix (.inl rfl) (absurd · Bool.false_ne_true) fun h => h
  | onExit handler =>
    rw [step, onExit]
    split
    · exact quiet_push ⟨rfl, rfl⟩
    · exact same rfl rfl rfl rfl rfl
  | dispose =>
    rw [step]
    split
    · exact same rfl rfl rfl rfl rfl
    · exact .of_history rfl List.suffix_rfl (.inl rfl) (fun h => h) fun _ => rfl
  | tearDown =>
    rw [step, tearDown]
    split
    · obtain ⟨hq, hm, -⟩ := quiet_push (c := c) (e := .cutOff) ⟨rfl, rfl⟩
      exact ⟨hq, hm, List.suffix_rfl, .inl rfl, fun h => h, fun _ => rfl⟩
    · exact .of_history rfl List.suffix_rfl (.inl rfl) (fun h => h) fun _ => rfl
    · exact same rfl rfl rfl rfl rfl
    · exact same rfl rfl rfl rfl rfl
  | cancelReader =>
    rw [step, cancelReader]
    split
    · split
      · rename_i hd
        exact .of_history rfl List.suffix_rfl (.inr hd) (fun h => h) fun h => h
      · exact same rfl rfl rfl rfl rfl
    · split
      · rename_i hd
        exact .of_history rfl List.suffix_rfl (.inr hd) (fun h => h) fun h => h
      · exact same rfl rfl rfl rfl rfl
    · exact same rfl rfl rfl rfl rfl
  | cancelWriter =>
    rw [step, cancelWriter]
    split
    · exact .of_history rfl List.nil_suffix (.inl rfl) (absurd · Bool.false_ne_true) fun h => h
    · exact same rfl rfl rfl rfl rfl

theorem works_step (hf : c.OwnFrames) (h : c.Works) (a : ClientAction) : (c.step a).Works := by
  cases ha : a.call? with
  | some k => exact works_of_moves (moves_step hf ha) h
  | none =>
    by_cases hr : a = .read
    · subst hr
      exact (reads c).works h
    · have hq : Quiet c (c.step a) := quiet_step ha hr
      exact ⟨Nat.le_trans hq.queue.length_le h.room,
        by rw [hq.queued]; exact hq.queue.trans h.queue⟩

/-- The writer is there, and nobody has told reader and writer to end. -/
def Serving (c : Client) : Prop := c.writerOpen = true ∧ c.disposed = false

theorem serving_of_step (hf : c.OwnFrames) (ho : (c.step a).Serving) : c.Serving := by
  cases ha : a.call? with
  | some k =>
    have hm := moves_step hf ha
    rwa [Serving, disposed, hm.writerOpen, hm.disposal] at ho
  | none =>
    by_cases hr : a = .read
    · subst hr
      have hd : c.read.disposal = c.disposal := (congrArg Client.disposal (behind_read c) :)
      rwa [step, Serving, disposed, writerOpen_read, hd] at ho
    · have hq : Quiet c (c.step a) := quiet_step ha hr
      refine ⟨hq.writer ho.1, Bool.eq_false_iff.2 fun hd => ?_⟩
      cases ho.2.symm.trans (hq.disposed hd)

theorem replied_step (hf : c.OwnFrames) (ho : (c.step a).Serving) (h : c.Replied) :
    (c.step a).Replied := by
  have ho' := serving_of_step hf ho
  cases ha : a.call? with
  | some k => exact replied_of_moves (moves_step hf ha) h
  | none =>
    by_cases hr : a = .read
    · subst hr
      exact (reads c).replied ho'.1 h
    · have hq : Quiet c (c.step a) := quiet_step ha hr
      have hs : (c.step a).reader = c.reader := hq.reader.resolve_right (by simp [ho'.2])
      rwa [Replied, replies, hq.queued, hs, hq.dispatched]

def taken (c : Client) : ClientAction → List UInt8
  | .receive bytes => if c.ended then [] else bytes
  | _ => []

/-- What comes in changes only where bytes or the end of the stream arrive, or the reader goes on.
-/
theorem input_step (hf : c.OwnFrames) (a : ClientAction) :
    (a ≠ .read → (c.step a).unread = c.unread ++ c.taken a) ∧
      (a ≠ .endStream → (c.step a).ended = c.ended) := by
  have same {d : Client} (hu : d.unread = c.unread) (he : d.ended = c.ended) :
      (a ≠ .read → d.unread = c.unread ++ []) ∧ (a ≠ .endStream → d.ended = c.ended) :=
    ⟨fun _ => hu.trans (List.append_nil _).symm, fun _ => he⟩
  cases a with
  | resume k =>
    have hm := moves_step hf (rfl : (ClientAction.resume k).call? = some k)
    exact same hm.unread hm.ended
  | expire k =>
    have hm := moves_step hf (rfl : (ClientAction.expire k).call? = some k)
    exact same hm.unread hm.ended
  | receive bytes =>
    rw [step, taken]
    split
    · exact same rfl rfl
    · exact ⟨fun _ => rfl, fun _ => rfl⟩
  | read => exact ⟨absurd rfl, fun _ => ended_read c⟩
  | endStream => exact ⟨fun _ => (List.append_nil _).symm, absurd rfl⟩
  | onExit handler =>
    rw [step, onExit]
    split <;> exact same rfl rfl
  | tearDown =>
    rw [step, tearDown]
    split <;> exact same rfl rfl
  | cancelReader =>
    rw [step, cancelReader]
    split
    · split <;> exact same rfl rfl
    · split <;> exact same rfl rfl
    · exact same rfl rfl
  | cancelWriter =>
    rw [step, cancelWriter]
    split <;> exact same rfl rfl
  | failWrite | dispose =>
    rw [step]
    split <;> exact same rfl rfl
  | call | write | onNotification => exact same rfl rfl

theorem heard_step (hf : c.OwnFrames) {vs : List Json} (h : Heard bytes c vs) (a : ClientAction) :
    ∃ vs', Heard (bytes ++ c.taken a) (c.step a) vs' := by
  by_cases hr : a = .read
  · subst hr
    have hn : bytes ++ c.taken .read = bytes := List.append_nil bytes
    rw [hn]
    exact (reads c).heard h
  · have hd : (c.step a).dispatched = c.dispatched := by
      cases ha : a.call? with
      | some k => exact dispatched_of_moves (moves_step hf ha)
      | none => exact (quiet_step ha hr).dispatched
    obtain ⟨parts, hb, hp, hv⟩ := h
    exact ⟨vs, parts, by rw [hb, (input_step hf a).1 hr, List.append_assoc], hp, hd.trans hv⟩

theorem taken_received (hf : c.OwnFrames) (a : ClientAction) (actions : List ClientAction) :
    c.taken a ++ (if (c.step a).ended then [] else received actions) =
      if c.ended then [] else received (a :: actions) := by
  by_cases ha : a = .endStream
  · subst ha
    have hr : received (.endStream :: actions) = [] := rfl
    rw [hr, ite_self]
    rfl
  · rw [(input_step hf a).2 ha]
    cases a with
    | receive bytes =>
      rw [taken, received]
      split <;> rfl
    | endStream => exact absurd rfl ha
    | _ => rfl

theorem heard_run (hf : c.OwnFrames) {vs : List Json} (h : Heard bytes c vs)
    (actions : List ClientAction) :
    ∃ vs', Heard (bytes ++ if c.ended then [] else received actions) (c.run actions) vs' := by
  induction actions generalizing c bytes vs with
  | nil =>
    rw [received, ite_self, List.append_nil]
    exact ⟨vs, h⟩
  | cons a actions ih =>
    obtain ⟨vs', h'⟩ := heard_step hf h a
    have hr := ih (ownFrames_step hf a) h'
    rw [List.append_assoc, taken_received hf] at hr
    exact hr

theorem works_run (hf : c.OwnFrames) (h : c.Works) (actions : List ClientAction) :
    (c.run actions).Works := by
  induction actions generalizing c with
  | nil => exact h
  | cons a actions ih => exact ih (ownFrames_step hf a) (works_step hf h a)

theorem serving_of_run (hf : c.OwnFrames) {actions : List ClientAction}
    (ho : (c.run actions).Serving) : c.Serving := by
  induction actions generalizing c with
  | nil => exact ho
  | cons a actions ih => exact serving_of_step hf (ih (ownFrames_step hf a) ho)

theorem replied_run (hf : c.OwnFrames) {actions : List ClientAction}
    (ho : (c.run actions).Serving) (h : c.Replied) : (c.run actions).Replied := by
  induction actions generalizing c with
  | nil => exact h
  | cons a actions ih =>
    have hf' := ownFrames_step hf a
    exact ih hf' ho (replied_step hf (serving_of_run hf' ho) h)

/-- A reply that waits is put into the queue as soon as the reader goes on and there is room. -/
theorem read_reply {r : Json} (ho : c.writerOpen = true) (hr : c.reader = .replying r)
    (hf : c.isFull = false) : c.read = { c with reader := .reading }.enqueue r := by
  simp [read, hr, offerReply, ho, hf]

end Client

open Client

/-- Every request of a server gets one reply, as long as the writer is there and the client was not
disposed of. The bytes that were taken off the stream are frames, and the requests among them, in
their order, have the replies that were put into the queue, and one that waits for room at most. -/
theorem requests_answered_once (server : String) (processId : Nat) (actions : List ClientAction)
    (ho : ((connect server processId).run actions).writerOpen = true)
    (hd : ((connect server processId).run actions).disposed = false) :
    let c := (connect server processId).run actions
    (∃ parts vs, received actions = parts.flatten ++ c.unread ∧ List.Forall₂ IsFrame parts vs ∧
      c.dispatched = vs.filterMap Incoming.classify? ∧
      List.Forall₂ Answers (vs.filter IsRequest) (c.replies ++ c.reader.reply?.toList)) ∧
    c.queue <:+ c.queued ∧
    ∀ r, c.reader = .replying r →
      (c.isFull = false → c.step .read = { c with reader := .reading }.enqueue r) ∧
      (c.step .write).step .read = { c.step .write with reader := .reading }.enqueue r := by
  intro c
  have hf : (connect server processId).OwnFrames := ownFrames_connect server processId
  have hw : c.Works := works_run hf ⟨Nat.zero_le _, List.suffix_rfl⟩ actions
  have hr : c.Replied := replied_run hf ⟨ho, hd⟩ rfl
  obtain ⟨vs, parts, hb, hp, hm⟩ : ∃ vs, Heard (received actions) c vs :=
    heard_run (c := connect server processId) hf ⟨[], rfl, .nil, rfl⟩ actions
  refine ⟨⟨parts, vs, hb, hp, hm, ?_⟩, hw.queue, ?_⟩
  · rw [hr, hm, filterMap_answer?]
    exact answers_replyTo? vs
  · intro r hreply
    refine ⟨read_reply ho hreply, ?_⟩
    have hfree : (c.step .write).isFull = false := by
      have hroom := hw.room
      simp only [isFull, step, List.length_drop, queueLimit, decide_eq_false_iff_not] at hroom ⊢
      omega
    exact read_reply (c := c.step .write) ho hreply hfree

def asking : Json :=
  .ofMembers [("id", .str "a"), ("method", .str "workspace/configuration"),
    ("params", .ofMembers [("items", .arr [.null, .null])])]

theorem asking_answered :
    let c := (connect "server" 7).run [.receive (write asking), .read, .read]
    c.writerOpen = true ∧ c.disposed = false ∧ ∃ r, c.replies = [r] ∧
      r.get? "id" = some (.str "a") ∧ r.get? "result" = some (.arr [.null, .null]) := by
  intro c
  have ho : c.writerOpen = true := by decide +kernel
  have hd : c.disposed = false := by decide +kernel
  obtain ⟨⟨parts, vs, hb, hp, -, ha⟩, -, -⟩ :=
    requests_answered_once "server" 7 [.receive (write asking), .read, .read] ho hd
  have hu : c.unread = [] := by decide +kernel
  have hr : c.reader.reply? = none := Option.isNone_iff_eq_none.1 (by decide +kernel)
  have hs : Sendable asking := ⟨by decide +kernel, by rfl⟩
  have hvs : vs = [asking] := by
    have hin : received [.receive (write asking), .read, .read] = [write asking].flatten ++ [] := by
      simp [received]
    have hone := readAll_append (.cons hs.isFrame .nil) []
    have hall := readAll_append hp []
    rw [← hu, ← hb, hin, hone, hu, readAll_of_finished (scan_finished_iff.2 rfl)] at hall
    simpa using (congrArg Prod.fst hall).symm
  subst hvs
  have hf : [asking].filter IsRequest = [asking] :=
    List.filter_cons_of_pos (by decide +kernel : IsRequest asking = true)
  rw [hf, hr] at ha
  obtain ⟨r, _, ⟨⟨id, hi, hrid⟩, -, hconf⟩, hnil, he⟩ := List.forall₂_cons_left_iff.1 ha
  cases hnil
  have hid : asking.get? "id" = some (.str "a") := by rfl
  refine ⟨ho, hd, r, ?_, ?_, hconf (by rfl)⟩
  · simpa using he
  · cases hid.symm.trans hi
    exact hrid

end Switchyard.Rpc
