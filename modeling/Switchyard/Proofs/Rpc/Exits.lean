import Switchyard.Proofs.Rpc.Replies

namespace Switchyard.Rpc

def ClientAction.exitHandler? : ClientAction → Option Nat
  | .onExit handler => some handler
  | _ => none

def registered (actions : List ClientAction) : List Nat :=
  actions.filterMap ClientAction.exitHandler?

def ClientEvent.exit? : ClientEvent → Option (Nat × StopReason)
  | .stopped handler reason => some (handler, reason)
  | _ => none

/-- The call of an exit handler that the reader still has to make. -/
def ReaderStage.owed : ReaderStage → List (Nat × StopReason)
  | .stopping (some handler) reason | .reporting handler reason => [(handler, reason)]
  | _ => []

def ReaderStage.isPast : ReaderStage → Bool
  | .stopping _ _ | .reporting _ _ | .gone => true
  | _ => false

theorem registered_cons (a : ClientAction) (actions : List ClientAction) :
    registered (a :: actions) = a.exitHandler?.toList ++ registered actions := by
  cases a <;> rfl

namespace Client

variable {c d : Client} {a : ClientAction} {reason : StopReason} {handlers : List Nat}
  {bytes : List UInt8}

def exits (c : Client) : List (Nat × StopReason) := c.history.reverse.filterMap ClientEvent.exit?

/-- The calls of exit handlers, those that have been made and that which the reader has to make. -/
def told (c : Client) : List (Nat × StopReason) := c.exits ++ c.reader.owed

/-- The reader is about to find that nothing more comes from the stream. -/
structure AtEnd (c : Client) (reason : StopReason) : Prop where
  reader : c.reader = .reading
  next : nextMessage c.ended c.unread = .finished ∧ reason = .exited ∨
    ∃ e, nextMessage c.ended c.unread = .failed e ∧ reason = .failed e

structure SameEnd (c d : Client) : Prop where
  stopped : d.stopped = c.stopped
  told : d.told = c.told
  handler : d.exitHandler = c.exitHandler
  past : c.reader.isPast = true → d.reader.isPast = true
  heard : c.reader.isPast = true → d.dispatched = c.dispatched

/-- The end has not come, and of those who wait for it the last one counts. -/
structure Awaits (c : Client) (handlers : List Nat) : Prop where
  stopped : c.stopped = none
  told : c.told = []
  handler : c.exitHandler = handlers.getLast?

/-- The end has come, and the handlers have been called or are about to be. -/
structure Reports (c : Client) (handlers : List Nat) (reason : StopReason) : Prop where
  stopped : c.stopped = some reason
  told : c.told.Perm (handlers.map (·, reason))
  past : c.reader.isPast = true

theorem exits_push (c : Client) (e : ClientEvent) :
    (c.push e).exits = c.exits ++ e.exit?.toList := by
  rw [exits, push, List.reverse_cons, List.filterMap_append]
  cases e <;> rfl

theorem told_push {e : ClientEvent} (he : e.exit? = none) : (c.push e).told = c.told := by
  rw [told, exits_push, he]
  exact congrArg (· ++ _) (List.append_nil _)

namespace SameEnd

theorem of_history (hh : d.history = c.history) (ho : d.reader.owed = c.reader.owed)
    (hs : d.stopped = c.stopped) (he : d.exitHandler = c.exitHandler)
    (hp : c.reader.isPast = true → d.reader.isPast = true) : SameEnd c d where
  stopped := hs
  told := by rw [Client.told, exits, hh, ho, Client.told, exits]
  handler := he
  past := hp
  heard _ := by rw [dispatched, hh, dispatched]

theorem of_reader (hh : d.history = c.history) (hr : d.reader = c.reader)
    (hs : d.stopped = c.stopped) (he : d.exitHandler = c.exitHandler) : SameEnd c d :=
  of_history hh (hr ▸ rfl) hs he fun h => hr ▸ h

theorem awaits (h : SameEnd c d) (ha : c.Awaits handlers) : d.Awaits handlers where
  stopped := h.stopped.trans ha.stopped
  told := h.told.trans ha.told
  handler := h.handler.trans ha.handler

theorem reports (h : SameEnd c d) (hr : c.Reports handlers reason) : d.Reports handlers reason where
  stopped := h.stopped.trans hr.stopped
  told := h.told ▸ hr.told
  past := h.past hr.past

end SameEnd

theorem Moves.sameEnd (h : Moves c d) : SameEnd c d where
  stopped := h.stopped
  told := by
    obtain ⟨new, hn, he⟩ := h.events
    have hx : new.reverse.filterMap ClientEvent.exit? = [] := by
      rw [List.filterMap_eq_nil_iff]
      intro e hm
      have hmine := he e (List.mem_reverse.1 hm)
      cases e with
      | stopped handler reason => exact hmine.elim
      | _ => rfl
    rw [told, exits, hn, List.reverse_append, List.filterMap_append, hx, List.append_nil, h.reader]
    rfl
  handler := h.exitHandler
  past hp := h.reader ▸ hp
  heard _ := dispatched_of_moves h

theorem SameEnd.push {e : ClientEvent} (h : SameEnd c d) (he : e.exit? = none)
    (hm : e.message? = none) : SameEnd c (d.push e) where
  stopped := h.stopped
  told := (told_push he).trans h.told
  handler := h.handler
  past := h.past
  heard hp := by rw [dispatched_push, hm, ← h.heard hp]; exact List.append_nil _

/-- A reader that still reads comes to a stage in which it has no handler to call either. -/
theorem sameEnd_reader {stage : ReaderStage} (hr : c.reader.owed = []) (hs : stage.owed = [])
    (hp : c.reader.isPast = false) : SameEnd c { c with reader := stage } :=
  .of_history rfl (hs.trans hr.symm) rfl rfl fun h => by cases hp.symm.trans h

theorem sameEnd_dispatch (hr : c.reader = .reading) (rest : List UInt8) (m : Incoming) :
    SameEnd c ({ c with unread := rest }.dispatch m) := by
  have ho : c.reader.owed = [] := congrArg ReaderStage.owed hr
  have hp : c.reader.isPast = false := congrArg ReaderStage.isPast hr
  have hread (d : Client) (hd : SameEnd c d) : SameEnd c (d.push (.dispatched m)) :=
    ⟨hd.stopped, (told_push rfl).trans hd.told, hd.handler, hd.past,
      fun h => by cases hp.symm.trans h⟩
  have hsame := hread { c with unread := rest } (.of_reader rfl rfl rfl rfl)
  cases m with
  | response id body =>
    rw [dispatch]
    split
    · exact ⟨hsame.stopped, hsame.told, hsame.handler, hsame.past, hsame.heard⟩
    · exact hsame
  | request id method params =>
    exact hread { c with unread := rest, reader := .replying (Rpc.reply id method params) }
      (.of_history rfl ho.symm rfl rfl fun h => by cases hp.symm.trans h)
  | notification method params =>
    rw [dispatch]
    split
    · rename_i handler _
      exact hread { c with unread := rest, reader := .notifying handler method params }
        (.of_history rfl ho.symm rfl rfl fun h => by cases hp.symm.trans h)
    · exact hsame

theorem sameEnd_offerReply {reply : Json} (hr : c.reader = .replying reply) :
    SameEnd c (c.offerReply reply) := by
  have hread : SameEnd c { c with reader := .reading } :=
    sameEnd_reader (congrArg ReaderStage.owed hr) rfl (congrArg ReaderStage.isPast hr)
  rw [offerReply]
  split
  · exact hread
  · split
    · exact .of_reader rfl rfl rfl rfl
    · have hqueue : SameEnd c { c with reader := .reading, queue := c.queue ++ [reply] } :=
        ⟨hread.stopped, hread.told, hread.handler, hread.past, hread.heard⟩
      exact hqueue.push rfl rfl

theorem sameEnd_cutOff {handler : Option Nat} (hr : c.reader = .stopping handler reason) :
    SameEnd c { c with reader := handler.elim .gone (.reporting · reason) }.cutOff := by
  have ho : (handler.elim .gone (.reporting · reason) : ReaderStage).owed = c.reader.owed := by
    rw [hr]
    cases handler <;> rfl
  have hp : (handler.elim .gone (.reporting · reason) : ReaderStage).isPast = true := by
    cases handler <;> rfl
  have hcut : SameEnd c { c with
      pending := []
      reader := handler.elim .gone (.reporting · reason) } := .of_history rfl ho rfl rfl fun _ => hp
  exact hcut.push rfl rfl

theorem sameEnd_report {handler : Nat} (hr : c.reader = .reporting handler reason) :
    SameEnd c ({ c with reader := .gone }.push (.stopped handler reason)) where
  stopped := rfl
  told := by
    rw [told, exits_push, told, hr, List.append_assoc]
    rfl
  handler := rfl
  past _ := rfl
  heard _ := (dispatched_push _ _).trans (List.append_nil _)

/-- The reader goes on, or it finds the end. -/
theorem read_cases (c : Client) :
    SameEnd c c.read ∨ ∃ reason, c.AtEnd reason ∧ c.read = c.stop reason := by
  unfold read
  split
  · rename_i hr
    split
    · exact .inl (sameEnd_dispatch hr _ _)
    · rename_i hn
      exact .inr ⟨.exited, ⟨hr, .inl ⟨hn, rfl⟩⟩, rfl⟩
    · rename_i e hn
      exact .inr ⟨.failed e, ⟨hr, .inr ⟨e, hn, rfl⟩⟩, rfl⟩
    · exact .inl (.of_reader rfl rfl rfl rfl)
  · rename_i hr
    exact .inl (sameEnd_offerReply hr)
  · rename_i hr
    have hread : SameEnd c { c with reader := .reading } :=
      sameEnd_reader (congrArg ReaderStage.owed hr) rfl (congrArg ReaderStage.isPast hr)
    exact .inl (hread.push rfl rfl)
  · rename_i hr
    exact .inl (sameEnd_cutOff hr)
  · rename_i hr
    exact .inl (sameEnd_report hr)
  · exact .inl (.of_reader rfl rfl rfl rfl)

theorem sameEnd_cancelReader (c : Client) : SameEnd c c.cancelReader := by
  rw [cancelReader]
  split
  · rename_i hr
    split
    · exact sameEnd_reader (congrArg ReaderStage.owed hr) rfl (congrArg ReaderStage.isPast hr)
    · exact .of_reader rfl rfl rfl rfl
  · rename_i hr
    split
    · exact sameEnd_reader (congrArg ReaderStage.owed hr) rfl (congrArg ReaderStage.isPast hr)
    · exact .of_reader rfl rfl rfl rfl
  · exact .of_reader rfl rfl rfl rfl

/-- Only a registration changes who waits for the end, and only the reader brings it about. -/
theorem step_cases (hf : c.OwnFrames) (a : ClientAction) :
    (a.exitHandler? = none ∧ SameEnd c (c.step a)) ∨ (∃ handler, a = .onExit handler) ∨
      (a = .read ∧ ∃ reason, c.AtEnd reason ∧ c.step a = c.stop reason) := by
  have same {d : Client} (hh : d.history = c.history) (hr : d.reader = c.reader)
      (hs : d.stopped = c.stopped) (he : d.exitHandler = c.exitHandler) : SameEnd c d :=
    .of_reader hh hr hs he
  cases a with
  | resume k => exact .inl ⟨rfl, (moves_step hf rfl).sameEnd⟩
  | expire k => exact .inl ⟨rfl, (moves_step hf rfl).sameEnd⟩
  | read =>
    obtain hs | he := read_cases c
    · exact .inl ⟨rfl, hs⟩
    · exact .inr (.inr ⟨rfl, he⟩)
  | onExit handler => exact .inr (.inl ⟨handler, rfl⟩)
  | receive | failWrite | dispose =>
    refine .inl ⟨rfl, ?_⟩
    rw [step]
    split <;> exact same rfl rfl rfl rfl
  | cancelWriter =>
    refine .inl ⟨rfl, ?_⟩
    rw [step, cancelWriter]
    split <;> exact same rfl rfl rfl rfl
  | tearDown =>
    refine .inl ⟨rfl, ?_⟩
    rw [step, tearDown]
    split
    · have hcut : SameEnd c { c with disposal := .cleared, pending := [] } := same rfl rfl rfl rfl
      exact hcut.push rfl rfl
    all_goals exact same rfl rfl rfl rfl
  | cancelReader => exact .inl ⟨rfl, sameEnd_cancelReader c⟩
  | call | endStream | write | onNotification => exact .inl ⟨rfl, same rfl rfl rfl rfl⟩

theorem Awaits.onExit (h : c.Awaits handlers) (handler : Nat) :
    (c.onExit handler).Awaits (handlers ++ [handler]) := by
  have ho : c.onExit handler = { c with exitHandler := some handler } := by
    rw [Client.onExit, h.stopped]
  rw [ho]
  exact ⟨h.stopped, h.told, List.getLast?_concat.symm⟩

theorem Awaits.stop (h : c.Awaits handlers) (reason : StopReason) :
    (c.stop reason).Reports handlers.getLast?.toList reason := by
  have hx : c.exits = [] := (List.append_eq_nil_iff.1 h.told).1
  refine ⟨rfl, ?_, rfl⟩
  have ht : (c.stop reason).told =
      c.exits ++ (ReaderStage.stopping c.exitHandler reason).owed := rfl
  rw [ht, hx, h.handler]
  cases handlers.getLast? <;> exact .refl _

theorem Awaits.step (hf : c.OwnFrames) (h : c.Awaits handlers) (a : ClientAction) :
    (c.step a).Awaits (handlers ++ a.exitHandler?.toList) ∨
      a = .read ∧ ∃ reason, c.AtEnd reason ∧ c.step a = c.stop reason := by
  obtain ⟨hn, hs⟩ | ⟨handler, rfl⟩ | hend := step_cases hf a
  · rw [hn, Option.toList_none, List.append_nil]
    exact .inl (hs.awaits h)
  · exact .inl (h.onExit handler)
  · exact .inr hend

theorem not_atEnd (h : c.reader.isPast = true) : ¬ c.AtEnd reason := by
  intro he
  rw [he.reader] at h
  cases h

theorem past_step (hf : c.OwnFrames) (h : c.reader.isPast = true) (a : ClientAction) :
    (c.step a).reader.isPast = true ∧ (c.step a).dispatched = c.dispatched := by
  obtain ⟨-, hs⟩ | ⟨handler, rfl⟩ | ⟨-, reason, he, -⟩ := step_cases hf a
  · exact ⟨hs.past h, hs.heard h⟩
  · rw [step, onExit]
    split
    · exact ⟨h, (dispatched_push _ _).trans (List.append_nil _)⟩
    · exact ⟨h, rfl⟩
  · exact absurd he (not_atEnd h)

/-- A reader that has come to the end of the stream, or has been cancelled, reads no more. -/
theorem past_run (hf : c.OwnFrames) (h : c.reader.isPast = true) (actions : List ClientAction) :
    (c.run actions).reader.isPast = true ∧ (c.run actions).dispatched = c.dispatched := by
  induction actions generalizing c with
  | nil => exact ⟨h, rfl⟩
  | cons a actions ih =>
    obtain ⟨h', hd⟩ := past_step hf h a
    obtain ⟨h'', hd'⟩ := ih (ownFrames_step hf a) h'
    exact ⟨h'', hd'.trans hd⟩

theorem Reports.step (hf : c.OwnFrames) (h : c.Reports handlers reason) (a : ClientAction) :
    (c.step a).Reports (handlers ++ a.exitHandler?.toList) reason := by
  obtain ⟨hn, hs⟩ | ⟨handler, rfl⟩ | ⟨-, reason', he, -⟩ := step_cases hf a
  · rw [hn, Option.toList_none, List.append_nil]
    exact hs.reports h
  · have ho : c.onExit handler = c.push (.stopped handler reason) := by
      rw [Client.onExit, h.stopped]
    rw [Client.step, ho]
    refine ⟨h.stopped, ?_, h.past⟩
    have ht : (c.push (.stopped handler reason)).told =
        c.exits ++ ([(handler, reason)] ++ c.reader.owed) := by
      rw [Client.told, exits_push, List.append_assoc]
      rfl
    have hlast : (c.exits ++ ([(handler, reason)] ++ c.reader.owed)).Perm
        (c.told ++ [(handler, reason)]) := by
      rw [Client.told, List.append_assoc]
      exact List.perm_append_comm.append_left c.exits
    rw [ht, List.map_append]
    exact hlast.trans (h.told.append_right _)
  · exact absurd he (not_atEnd h.past)

theorem Reports.run (hf : c.OwnFrames) (h : c.Reports handlers reason)
    (actions : List ClientAction) :
    (c.run actions).Reports (handlers ++ registered actions) reason := by
  induction actions generalizing c handlers with
  | nil => exact (List.append_nil handlers).symm ▸ h
  | cons a actions ih =>
    rw [registered_cons, ← List.append_assoc]
    exact ih (ownFrames_step hf a) (h.step hf a)

theorem owed_read (h : c.reader.isPast = true) : c.read.read.reader.owed = [] := by
  unfold read
  cases hr : c.reader with
  | stopping handler reason => cases handler <;> rfl
  | reporting handler reason => rfl
  | gone => simp only [hr]; rfl
  | reading | replying | notifying =>
    rw [hr] at h
    cases h

/-- In a run the end has not come, or it came when the reader found it. -/
theorem Awaits.run (hf : c.OwnFrames) (h : c.Awaits handlers) (actions : List ClientAction) :
    (c.run actions).Awaits (handlers ++ registered actions) ∨
      ∃ before after reason, actions = before ++ .read :: after ∧ (c.run before).AtEnd reason ∧
        (c.run before).Awaits (handlers ++ registered before) := by
  induction actions generalizing c handlers with
  | nil => exact .inl ((List.append_nil handlers).symm ▸ h)
  | cons a actions ih =>
    obtain h' | ⟨rfl, reason, he, -⟩ := h.step hf a
    · rw [registered_cons, ← List.append_assoc]
      obtain h'' | ⟨before, after, reason, rfl, he, hb⟩ := ih (ownFrames_step hf a) h'
      · exact .inl h''
      · refine .inr ⟨a :: before, after, reason, rfl, he, ?_⟩
        rw [registered_cons, ← List.append_assoc]
        exact hb
    · exact .inr ⟨[], actions, reason, rfl, he, (List.append_nil handlers).symm ▸ h⟩

theorem read_of_atEnd (h : c.AtEnd reason) : c.read = c.stop reason := by
  rw [read, h.reader]
  obtain ⟨hn, rfl⟩ | ⟨e, hn, rfl⟩ := h.next
  all_goals
    dsimp only
    rw [hn]

theorem of_scan_finished {ended : Bool} (h : scan ended bytes = .finished) :
    ended = true ∧ bytes = [] := by
  unfold scan at h
  split at h
  · unfold scanBody at h
    repeat' split at h
    all_goals cases h
  · rename_i hh
    obtain ⟨rfl, -⟩ := scanHeaders_finished hh
    cases ended with
    | false => simp [scanHeaders] at hh
    | true => exact ⟨rfl, rfl⟩
  · cases h
  · cases h

theorem of_nextMessage_finished {ended : Bool} (h : nextMessage ended bytes = .finished) :
    ended = true ∧ ∃ parts vs, bytes = parts.flatten ∧ List.Forall₂ IsFrame parts vs := by
  fun_induction nextMessage ended bytes with
  | case2 bytes frame tail hs hc ih =>
    obtain ⟨part, hf, rfl⟩ := scan_eq_found_iff.1 hs
    obtain ⟨he, parts, vs, rfl, hp⟩ := ih h
    exact ⟨he, part :: parts, frame :: vs, List.flatten_cons.symm, .cons hf hp⟩
  | case3 bytes hs =>
    obtain ⟨he, rfl⟩ := of_scan_finished hs
    exact ⟨he, [], [], rfl, .nil⟩
  | case1 | case4 | case5 => cases h

theorem readAll_of_nextMessage {e : FrameError} (h : nextMessage true bytes = .failed e) :
    (readAll bytes).2 = .failed e := by
  have hm : messages bytes = ([], .failed e) := by
    rw [messages.eq_def]
    split <;> simp_all
  rw [messages_eq] at hm
  exact congrArg Prod.snd hm

/-- The server has exited if its stream is over and was frames up to there. In all other cases it
has failed. -/
theorem AtEnd.exited_iff {vs : List Json} (h : c.AtEnd reason) (hb : Heard bytes c vs) :
    reason = .exited ↔
      c.ended = true ∧ ∃ parts vs, bytes = parts.flatten ∧ List.Forall₂ IsFrame parts vs := by
  obtain ⟨parts, rfl, hp, -⟩ := hb
  obtain ⟨hn, rfl⟩ | ⟨e, hn, rfl⟩ := h.next
  · obtain ⟨he, parts', vs', hu, hp'⟩ := of_nextMessage_finished hn
    refine iff_of_true rfl ⟨he, parts ++ parts', vs ++ vs', ?_, List.rel_append hp hp'⟩
    rw [hu, List.flatten_append]
  · refine iff_of_false nofun ?_
    rintro ⟨he, whole, ws, hw, hf⟩
    rw [he] at hn
    have hclean := readAll_append hf []
    rw [List.append_nil, ← hw, readAll_append hp, readAll_of_nextMessage hn,
      readAll_of_finished (scan_finished_iff.2 rfl)] at hclean
    cases congrArg Prod.snd hclean

end Client

open Client

/-- The end of a stream is heard of once. The reader brings it about where it finds that nothing
more can be read, and nobody hears of it before. Then the exit handler registered last is called, by
the reader's next two steps, and whoever registers later is called at once; all get the same reason,
and no message is dispatched any more. A reader that is cancelled before brings about no end. -/
theorem exits_observed (server : String) (processId : Nat) (actions : List ClientAction) :
    let c := (connect server processId).run actions
    (c.stopped = none → c.told = []) ∧
    (∀ reason, c.AtEnd reason → c.step .read = c.stop reason ∧
      (reason = .exited ↔ c.ended = true ∧
        ∃ parts vs, received actions = parts.flatten ∧ List.Forall₂ IsFrame parts vs)) ∧
    (∀ reason, c.stopped = some reason → ∃ early late, actions = early ++ .read :: late ∧
      ((connect server processId).run early).AtEnd reason ∧
      c.told.Perm (((registered early).getLast?.toList ++ registered late).map (·, reason)) ∧
      c.dispatched = ((connect server processId).run early).dispatched ∧
      ((c.step .read).step .read).reader.owed = []) ∧
    (c.stopped = none → c.reader.isPast = true → ∀ after,
      (c.run after).stopped = none ∧ (c.run after).told = [] ∧
      (c.run after).dispatched = c.dispatched) := by
  intro c
  have hf₀ := ownFrames_connect server processId
  have hf : c.OwnFrames := ownFrames_run hf₀ actions
  have hawaits : (connect server processId).Awaits [] := ⟨rfl, rfl, rfl⟩
  have hrun := hawaits.run hf₀ actions
  obtain ⟨vs, hb⟩ : ∃ vs, Heard (received actions) c vs :=
    heard_run (c := connect server processId) hf₀ ⟨[], rfl, .nil, rfl⟩ actions
  have hend {reason : StopReason} {early late : List ClientAction}
      (hactions : actions = early ++ .read :: late)
      (he : ((connect server processId).run early).AtEnd reason)
      (hb : ((connect server processId).run early).Awaits (registered early)) :
      c.Reports ((registered early).getLast?.toList ++ registered late) reason ∧
        c.dispatched = ((connect server processId).run early).dispatched := by
    have hstop : ((connect server processId).run early).step .read =
        ((connect server processId).run early).stop reason := read_of_atEnd he
    have hc : c = (((connect server processId).run early).stop reason).run late := by
      rw [← hstop]
      show Client.run _ actions = _
      rw [hactions, run, List.foldl_append]
      rfl
    have hf' : (((connect server processId).run early).stop reason).OwnFrames :=
      ownFrames_run hf₀ early
    rw [hc]
    exact ⟨(hb.stop reason).run hf' late, (past_run hf' rfl late).2⟩
  refine ⟨?_, fun reason he => ⟨read_of_atEnd he, he.exited_iff hb⟩, ?_, ?_⟩
  · intro hs
    obtain h | ⟨early, late, reason, hactions, he, hb⟩ := hrun
    · exact h.told
    · cases hs.symm.trans (hend hactions he hb).1.stopped
  · intro reason hs
    obtain h | ⟨early, late, reason', hactions, he, hb⟩ := hrun
    · cases hs.symm.trans h.stopped
    · obtain ⟨hr, hd⟩ := hend hactions he hb
      cases hs.symm.trans hr.stopped
      exact ⟨early, late, hactions, he, hr.told, hd, owed_read hr.past⟩
  · intro hs hp after
    obtain h | ⟨early, late, reason, hactions, he, hb⟩ := hrun
    · obtain h' | ⟨early, -, reason, -, he, -⟩ := h.run hf after
      · exact ⟨h'.stopped, h'.told, (past_run hf hp after).2⟩
      · exact absurd he (not_atEnd (past_run hf hp early).1)
    · cases hs.symm.trans (hend hactions he hb).1.stopped

/-- A client that is disposed of while the reader has not been cancelled still hears of the end. -/
theorem exits_after_dispose :
    ((connect "server" 7).run [.onExit 1, .endStream, .dispose, .read, .read, .read]).exits =
      [(1, .exited)] := by
  decide +kernel

end Switchyard.Rpc
