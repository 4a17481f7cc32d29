import Switchyard.Rpc.Client

namespace Switchyard.Rpc.Client

/-- The client, with more events before those in its history. It never reads them. -/
def after (c : Client) (past : List ClientEvent) : Client :=
  { c with history := c.history ++ past }

variable (c : Client) (past : List ClientEvent) (k id : Nat) (op : Operation)

theorem push_after (e : ClientEvent) : (c.after past).push e = (c.push e).after past := rfl

theorem complete_after (result : Except ServerError Unit) :
    (c.after past).complete k result = (c.complete k result).after past := rfl

theorem conclude_after (outcome : Except RequestError Json) :
    (c.after past).conclude k op id outcome = (c.conclude k op id outcome).after past := by
  unfold conclude
  rw [push_after]
  cases outcome with
  | error e => rfl
  | ok body =>
    dsimp only
    cases body.get? "error" <;> rfl

theorem awaitAnswer_after :
    (c.after past).awaitAnswer k op id = (c.awaitAnswer k op id).after past := by
  have ha : (c.after past).answers = c.answers := rfl
  have hp : (c.after past).pending = c.pending := rfl
  unfold awaitAnswer
  rw [ha, hp]
  cases c.answers.lookup id with
  | some body => exact conclude_after c past k id op _
  | none =>
    dsimp only
    rw [apply_ite (after · past), conclude_after]

theorem takeId_after (method : String) (params : Option Json) :
    (c.after past).takeId k op method params = (c.takeId k op method params).after past := by
  unfold takeId
  rw [apply_ite (after · past)]
  rfl

theorem beginNotification_after :
    (c.after past).beginNotification k op = (c.beginNotification k op).after past := by
  unfold beginNotification
  rw [apply_ite (after · past)]
  rfl

theorem start_after : (c.after past).start k op = (c.start k op).after past := by
  cases op with
  | notify method params => exact beginNotification_after c past k _
  | shutdown => exact takeId_after c past k _ _ _
  | handshake root milliseconds =>
    unfold start
    dsimp only
    cases Uri.ofPath? root with
    | none => exact complete_after c past k _
    | some uri => exact takeId_after c past k _ _ _

theorem resume_after : (c.after past).resume k = (c.resume k).after past := by
  have hc : (c.after past).calls = c.calls := rfl
  unfold resume
  rw [hc]
  cases c.calls[k]? with
  | none => rfl
  | some call =>
    dsimp only
    cases call.stage with
    | begun => exact start_after c past k _
    | registered id frame =>
      dsimp only [checkStopped]
      rw [apply_ite (after · past)]
      rfl
    | requesting id frame =>
      dsimp only [offerRequest]
      rw [apply_ite (after · past), apply_ite (after · past)]
      rfl
    | waiting id => exact awaitAnswer_after c past k id _
    | abandoning id e => exact conclude_after (c.forget id) past k id _ _
    | answered => exact beginNotification_after c past k _
    | notifying frame =>
      dsimp only [offerNotification]
      rw [apply_ite (after · past), apply_ite (after · past)]
      rfl
    | numbered id frame | done result => rfl

theorem expire_after : (c.after past).expire k = (c.expire k).after past := by
  have hc : (c.after past).calls = c.calls := rfl
  have hp : (c.after past).pending = c.pending := rfl
  unfold expire
  rw [hc, hp]
  cases c.calls[k]? with
  | none => rfl
  | some call =>
    dsimp only
    cases call.stage with
    | waiting id =>
      dsimp only
      rw [apply_ite (after · past), awaitAnswer_after]
      rfl
    | _ => rfl

theorem offerReply_after (reply : Json) :
    (c.after past).offerReply reply = (c.offerReply reply).after past := by
  unfold offerReply
  rw [apply_ite (after · past), apply_ite (after · past)]
  rfl

theorem dispatch_after (m : Incoming) :
    (c.after past).dispatch m = (c.dispatch m).after past := by
  unfold dispatch
  rw [push_after]
  cases m with
  | response id body =>
    dsimp only
    rw [apply_ite (after · past)]
    rfl
  | request id method params => rfl
  | notification method params =>
    have hn : ∀ d : Client, (d.after past).notificationHandler = d.notificationHandler :=
      fun _ => rfl
    dsimp only
    rw [hn]
    split <;> rfl

theorem read_after : (c.after past).read = c.read.after past := by
  have hr : (c.after past).reader = c.reader := rfl
  have hn : nextMessage (c.after past).ended (c.after past).unread =
      nextMessage c.ended c.unread := rfl
  unfold read
  rw [hr, hn]
  cases c.reader with
  | reading =>
    dsimp only
    cases nextMessage c.ended c.unread with
    | found m rest => exact dispatch_after { c with unread := rest, reader := .reading } past m
    | finished | failed | unfinished => rfl
  | replying reply => exact offerReply_after c past reply
  | notifying | stopping | reporting | gone => rfl

theorem step_after (a : ClientAction) : (c.after past).step a = (c.step a).after past := by
  cases a with
  | resume k => exact resume_after c past k
  | expire k => exact expire_after c past k
  | read => exact read_after c past
  | onExit handler =>
    have hs : (c.after past).stopped = c.stopped := rfl
    rw [step, step, onExit, onExit, hs]
    cases c.stopped <;> rfl
  | tearDown =>
    have hd : (c.after past).disposal = c.disposal := rfl
    rw [step, step, tearDown, tearDown, hd]
    cases c.disposal <;> rfl
  | cancelReader =>
    have hr : (c.after past).reader = c.reader := rfl
    have hd : (c.after past).disposed = c.disposed := rfl
    rw [step, step, cancelReader, cancelReader, hr, hd]
    cases c.reader with
    | reading | replying =>
      dsimp only
      rw [apply_ite (after · past)]
      rfl
    | _ => rfl
  | cancelWriter =>
    rw [step, step, cancelWriter, cancelWriter, apply_ite (after · past)]
    rfl
  | receive | failWrite | dispose =>
    rw [step, step, apply_ite (after · past)]
    rfl
  | call | endStream | write | onNotification => rfl

theorem run_after (actions : List ClientAction) :
    (c.after past).run actions = (c.run actions).after past := by
  induction actions generalizing c with
  | nil => rfl
  | cons a actions ih =>
    have hs := ih (c.step a)
    rwa [← step_after] at hs

end Switchyard.Rpc.Client
