import Switchyard.Rpc.Frame
import Switchyard.Rpc.Message
import Switchyard.Server.Error
import Switchyard.Uri

namespace Switchyard.Rpc

/-- Why no more messages come from a server: its stream ended between two frames, or else. -/
inductive StopReason where
  | exited
  | failed (error : FrameError)
  deriving DecidableEq, Inhabited

inductive RequestError where
  | timeout
  | closed
  deriving DecidableEq, Inhabited

def RequestError.message : RequestError → String
  | .timeout => "request timed out"
  | .closed => "connection closed"

/-- What can be asked of a client. A handshake is the request `initialize` and the notification
`initialized`, a shutdown, which never fails, the request `shutdown` and the notification `exit`. -/
inductive Operation where
  | handshake (root : Path) (milliseconds : Nat)
  | shutdown
  | notify (method : String) (params : Json)
  deriving Inhabited

/-- How far a call has come. Between two stages it looks at what others share with it, or changes
it, once. -/
inductive CallStage where
  | begun
  | numbered (id : Nat) (frame : Json)
  | registered (id : Nat) (frame : Json)
  | requesting (id : Nat) (frame : Json)
  | waiting (id : Nat)
  | abandoning (id : Nat) (error : RequestError)
  | answered
  | notifying (frame : Json)
  | done (result : Except ServerError Unit)
  deriving Inhabited

structure Call where
  operation : Operation
  stage : CallStage
  deriving Inhabited

/-- How far the reader has come. It can be cancelled only where it waits, for bytes or for the
queue. -/
inductive ReaderStage where
  | reading
  | replying (reply : Json)
  | notifying (handler : Nat) (method : String) (params : Option Json)
  | stopping (handler : Option Nat) (reason : StopReason)
  | reporting (handler : Nat) (reason : StopReason)
  | gone
  deriving Inhabited

/-- How far the client has been disposed of. First the calls are turned away, and the reader and the
writer are told to end; then what is pending is cut off, and the notification handler removed. -/
inductive Disposal where
  | notYet
  | signalled
  | cleared
  | complete
  deriving DecidableEq, Inhabited

inductive ClientEvent where
  | numbered (call id : Nat)
  | requested (call id : Nat)
  | expired (call id : Nat)
  | cutOff
  | settled (call id : Nat) (outcome : Except RequestError Json)
  | queued (frame : Json)
  | dispatched (message : Incoming)
  | notified (handler : Nat) (method : String) (params : Option Json)
  | stopped (handler : Nat) (reason : StopReason)
  | completed (call : Nat) (result : Except ServerError Unit)
  deriving Inhabited

structure Client where
  server : String
  processId : Nat
  nextId : Nat
  pending : List Nat
  answers : List (Nat × Json)
  queue : List Json
  writerOpen : Bool
  unread : List UInt8
  ended : Bool
  reader : ReaderStage
  stopped : Option StopReason
  exitHandler : Option Nat
  notificationHandler : Option Nat
  disposal : Disposal
  calls : List Call
  history : List ClientEvent
  deriving Inhabited

def queueLimit : Nat := 64

def workspaceName (root : Path) : String :=
  (root.fileName?.bind Text.Utf8.toString?).getD "workspace"

namespace Operation

def failure (server : String) (e : RequestError) : Operation → Except ServerError Unit
  | .handshake _ milliseconds =>
    match e with
    | .timeout => .error (.handshakeTimeout server milliseconds)
    | .closed => .error (.handshake server e.message)
  | .shutdown => .ok ()
  | .notify _ _ => .error (.transport server e.message)

def rejection (server : String) (error : Json) : Operation → Except ServerError Unit
  | .handshake _ _ =>
    .error (.handshake server (((error.get? "message").bind Json.str?).getD "unknown error"))
  | _ => .ok ()

def sequel : Operation → Json
  | .handshake _ _ => notification "initialized" (some (.obj []))
  | .shutdown => notification "exit" none
  | .notify method params => notification method (some params)

end Operation

namespace Client

def connect (server : String) (processId : Nat) : Client where
  server := server
  processId := processId
  nextId := 1
  pending := []
  answers := []
  queue := []
  writerOpen := true
  unread := []
  ended := false
  reader := .reading
  stopped := none
  exitHandler := none
  notificationHandler := none
  disposal := .notYet
  calls := []
  history := []

def disposed (c : Client) : Bool := c.disposal != .notYet

def push (c : Client) (e : ClientEvent) : Client := { c with history := e :: c.history }

def isFull (c : Client) : Bool := queueLimit ≤ c.queue.length

def enqueue (c : Client) (frame : Json) : Client :=
  { c with queue := c.queue ++ [frame] }.push (.queued frame)

def setStage (c : Client) (k : Nat) (stage : CallStage) : Client :=
  { c with calls := c.calls.modify k ({ · with stage }) }

def complete (c : Client) (k : Nat) (result : Except ServerError Unit) : Client :=
  (c.setStage k (.done result)).push (.completed k result)

def forget (c : Client) (id : Nat) : Client := { c with pending := c.pending.filter (· != id) }

/-- Takes an id for the request of a call. Nobody else looks at the next id, so that this and the
look at `disposed` are one step. -/
def takeId (c : Client) (k : Nat) (op : Operation) (method : String) (params : Option Json) :
    Client :=
  if c.disposed then c.complete k (op.failure c.server .closed)
  else
    ({ c with nextId := (c.nextId + 1) % Nat.pow 2 64 }.push (.numbered k c.nextId)).setStage k
      (.numbered c.nextId (request c.nextId method params))

def register (c : Client) (k id : Nat) (frame : Json) : Client :=
  ({ c with pending := id :: c.pending }.push (.requested k id)).setStage k (.registered id frame)

def checkStopped (c : Client) (k id : Nat) (frame : Json) : Client :=
  if c.stopped.isSome then c.setStage k (.abandoning id .closed)
  else c.setStage k (.requesting id frame)

def offerRequest (c : Client) (k id : Nat) (frame : Json) : Client :=
  if !c.writerOpen then c.setStage k (.abandoning id .closed)
  else if c.isFull then c
  else (c.enqueue frame).setStage k (.waiting id)

/-- The request of a call is over, and the call goes on with what came of it. -/
def conclude (c : Client) (k : Nat) (op : Operation) (id : Nat)
    (outcome : Except RequestError Json) : Client :=
  let c := c.push (.settled k id outcome)
  match outcome with
  | .error e => c.complete k (op.failure c.server e)
  | .ok body =>
    match body.get? "error" with
    | some error => c.complete k (op.rejection c.server error)
    | none => c.setStage k .answered

/-- Looks for the answer to a request. One that is neither answered nor pending has been cut off. -/
def awaitAnswer (c : Client) (k : Nat) (op : Operation) (id : Nat) : Client :=
  match c.answers.lookup id with
  | some body => c.conclude k op id (.ok body)
  | none => if c.pending.contains id then c else c.conclude k op id (.error .closed)

def beginNotification (c : Client) (k : Nat) (op : Operation) : Client :=
  if c.disposed then c.complete k (op.failure c.server .closed)
  else c.setStage k (.notifying op.sequel)

def offerNotification (c : Client) (k : Nat) (op : Operation) (frame : Json) : Client :=
  if !c.writerOpen then c.complete k (op.failure c.server .closed)
  else if c.isFull then c
  else (c.enqueue frame).complete k (.ok ())

def start (c : Client) (k : Nat) (op : Operation) : Client :=
  match op with
  | .notify _ _ => c.beginNotification k op
  | .shutdown => c.takeId k op "shutdown" none
  | .handshake root _ =>
    match Uri.ofPath? root with
    | none => c.complete k (.error (.handshake c.server (Uri.noUriMessage root)))
    | some uri =>
      c.takeId k op "initialize"
        (some (initializeParams (.nat c.processId) uri (workspaceName root)))

def resume (c : Client) (k : Nat) : Client :=
  match c.calls[k]? with
  | none => c
  | some call =>
    match call.stage with
    | .begun => c.start k call.operation
    | .numbered id frame => c.register k id frame
    | .registered id frame => c.checkStopped k id frame
    | .requesting id frame => c.offerRequest k id frame
    | .waiting id => c.awaitAnswer k call.operation id
    | .abandoning id e => (c.forget id).conclude k call.operation id (.error e)
    | .answered => c.beginNotification k call.operation
    | .notifying frame => c.offerNotification k call.operation frame
    | .done _ => c

/-- The time of a request is over. An answer that is there counts all the same. -/
def expire (c : Client) (k : Nat) : Client :=
  match c.calls[k]? with
  | none => c
  | some call =>
    match call.stage with
    | .waiting id =>
      if c.pending.contains id then (c.push (.expired k id)).setStage k (.abandoning id .timeout)
      else c.awaitAnswer k call.operation id
    | _ => c

def offerReply (c : Client) (r : Json) : Client :=
  if !c.writerOpen then { c with reader := .reading }
  else if c.isFull then c
  else { c with reader := .reading }.enqueue r

def dispatch (c : Client) (m : Incoming) : Client :=
  let c := c.push (.dispatched m)
  match m with
  | .response id body =>
    if c.pending.contains id then { c.forget id with answers := (id, body) :: c.answers } else c
  | .request id method params => { c with reader := .replying (Rpc.reply id method params) }
  | .notification method params =>
    match c.notificationHandler with
    | some handler => { c with reader := .notifying handler method params }
    | none => c

/-- The stream is over. What was pending is cut off next, and the exit handler called last. -/
def stop (c : Client) (reason : StopReason) : Client :=
  { c with
    stopped := some reason
    exitHandler := none
    reader := .stopping c.exitHandler reason }

def cutOff (c : Client) : Client := { c with pending := [] }.push .cutOff

def read (c : Client) : Client :=
  match c.reader with
  | .reading =>
    match nextMessage c.ended c.unread with
    | .found m rest => { c with unread := rest }.dispatch m
    | .finished => c.stop .exited
    | .failed e => c.stop (.failed e)
    | .unfinished => c
  | .replying r => c.offerReply r
  | .notifying handler method params =>
    { c with reader := .reading }.push (.notified handler method params)
  | .stopping handler reason =>
    { c with reader := handler.elim .gone (.reporting · reason) }.cutOff
  | .reporting handler reason => { c with reader := .gone }.push (.stopped handler reason)
  | .gone => c

/-- Registers an exit handler; it is called at once where the stream is already over. -/
def onExit (c : Client) (handler : Nat) : Client :=
  match c.stopped with
  | some reason => c.push (.stopped handler reason)
  | none => { c with exitHandler := some handler }

def tearDown (c : Client) : Client :=
  match c.disposal with
  | .signalled => { c with disposal := .cleared }.cutOff
  | .cleared => { c with disposal := .complete, notificationHandler := none }
  | .notYet | .complete => c

def cancelReader (c : Client) : Client :=
  match c.reader with
  | .reading | .replying _ => if c.disposed then { c with reader := .gone } else c
  | _ => c

def cancelWriter (c : Client) : Client :=
  if c.disposed then { c with writerOpen := false, queue := [] } else c

end Client

/-- What can happen to a client. Once it is disposed of, its reader and its writer can be cancelled
at any time, and until then they go on. -/
inductive ClientAction where
  | call (operation : Operation)
  | resume (call : Nat)
  | expire (call : Nat)
  | receive (bytes : List UInt8)
  | endStream
  | read
  | write
  | failWrite
  | onNotification (handler : Nat)
  | onExit (handler : Nat)
  | dispose
  | tearDown
  | cancelReader
  | cancelWriter
  deriving Inhabited

def Client.step (c : Client) : ClientAction → Client
  | .call operation => { c with calls := c.calls ++ [⟨operation, .begun⟩] }
  | .resume k => c.resume k
  | .expire k => c.expire k
  | .receive bytes => if c.ended then c else { c with unread := c.unread ++ bytes }
  | .endStream => { c with ended := true }
  | .read => c.read
  | .write => { c with queue := c.queue.drop 1 }
  | .failWrite => if c.queue.isEmpty then c else { c with writerOpen := false, queue := [] }
  | .onNotification handler => { c with notificationHandler := some handler }
  | .onExit handler => c.onExit handler
  | .dispose => if c.disposed then c else { c with disposal := .signalled }
  | .tearDown => c.tearDown
  | .cancelReader => c.cancelReader
  | .cancelWriter => c.cancelWriter

def Client.run (c : Client) (actions : List ClientAction) : Client := actions.foldl Client.step c

end Switchyard.Rpc
