import Switchyard.Rpc.Client

namespace Switchyard.Rpc

inductive PeerMessage where
  | value (json : Json)
  | raw (bytes : List UInt8)
  | close
  deriving Inhabited

namespace PeerMessage

def bytes : PeerMessage → List UInt8
  | .value json => write json
  | .raw bytes => bytes
  | .close => []

def weight (m : PeerMessage) : Nat := m.bytes.length + 1

end PeerMessage

structure Peer where
  answer : Json → List PeerMessage
  reading : Bool
  writing : Bool
  received : List Json
  deriving Inhabited

namespace Peer

def method? (frame : Json) : Option String := (frame.get? "method").bind Json.str?

def idOf (frame : Json) : Json := (frame.get? "id").getD .null

def fillId (id : Json) (message : Json) : Json :=
  match message with
  | .obj members =>
    match message.get? "id" with
    | some (.str "$id") => .obj (members.map fun m => if m.1 = "id" then (m.1, id) else m)
    | _ => message
  | j => j

/-- Answers by messages that are laid down for methods; their ids may be left open. -/
def answerBy (replies : List (String × List PeerMessage)) (frame : Json) : List PeerMessage :=
  let messages := ((method? frame).bind fun m => replies.lookup m).getD []
  messages.map fun
    | .value json => .value (fillId (idOf frame) json)
    | m => m

end Peer

structure Link where
  client : Client
  peer : Peer
  deriving Inhabited

namespace Link

def connect (server : String) (answer : Json → List PeerMessage) : Link :=
  ⟨.connect server 1, ⟨answer, true, true, []⟩⟩

def act (l : Link) (a : ClientAction) : Link := { l with client := l.client.step a }

def stopReading (l : Link) : Link := { l with peer := { l.peer with reading := false } }

def answerWith (l : Link) (answer : Json → List PeerMessage) : Link :=
  { l with peer := { l.peer with answer } }

def forgetHistory (l : Link) : Link :=
  ⟨{ l.client with history := [] }, { l.peer with received := [] }⟩

def send (l : Link) (message : PeerMessage) : Link :=
  if !l.peer.writing then l
  else
    match message with
    | .close => { l with peer := { l.peer with writing := false } }.act .endStream
    | message => l.act (.receive message.bytes)

def deliver (l : Link) (frame : Json) : Link :=
  let l := { l with peer := { l.peer with received := frame :: l.peer.received } }
  (l.peer.answer frame).foldl send l

def transfer (l : Link) : Link :=
  match l.client.queue with
  | [] => l
  | frame :: _ => if l.peer.reading then (l.act .write).deliver frame else l.act .failWrite

def canRead (c : Client) : Bool :=
  match c.reader with
  | .reading =>
    match nextMessage c.ended c.unread with
    | .unfinished => false
    | _ => true
  | .replying _ => !c.isFull || !c.writerOpen
  | .notifying _ _ _ | .stopping _ _ | .reporting _ _ => true
  | .gone => false

def canResume (c : Client) (call : Call) : Bool :=
  match call.stage with
  | .requesting _ _ | .notifying _ => !c.isFull || !c.writerOpen
  | .waiting id => !c.pending.contains id
  | .done _ => false
  | _ => true

/-- What is left to do at the end of a client: it is done before anything else happens. -/
def ending? (c : Client) : Option ClientAction :=
  match c.disposal, c.reader with
  | .notYet, _ => none
  | .signalled, _ | .cleared, _ => some .tearDown
  | .complete, .reading | .complete, .replying _ => some .cancelReader
  | .complete, _ => if c.writerOpen then some .cancelWriter else none

def move? (l : Link) : Option Link :=
  match ending? l.client with
  | some a => some (l.act a)
  | none =>
    if !l.client.queue.isEmpty then some l.transfer
    else if canRead l.client then some (l.act .read)
    else (l.client.calls.findIdx? (canResume l.client)).map fun k => l.act (.resume k)

def moves : Nat → Link → Link
  | 0, l => l
  | n + 1, l =>
    match l.move? with
    | some l => moves n l
    | none => l

def upcoming (call : Call) : List Json :=
  match call.stage with
  | .numbered _ frame | .registered _ frame | .requesting _ frame =>
    [frame, call.operation.sequel]
  | .notifying frame => [frame]
  | .begun | .waiting _ | .answered => [call.operation.sequel]
  | .abandoning _ _ | .done _ => []

/-- A bound on the moves until client and server wait. Every frame of the client is written, and
answered by messages; every message is read, and answered by one frame at most, to which the server
says nothing. A call makes ten moves at most. -/
def bound (l : Link) : Nat :=
  let frames := l.client.queue ++ l.client.calls.flatMap upcoming
  let answers := (frames.flatMap l.peer.answer).map PeerMessage.weight
  4 * (l.client.unread.length + Natural.total answers) + 4 * frames.length +
    10 * l.client.calls.length + 16

def settle (l : Link) : Link := moves l.bound l

def result? (l : Link) (k : Nat) : Option (Except ServerError Unit) :=
  match l.client.calls[k]? with
  | some ⟨_, .done r⟩ => some r
  | _ => none

def advance (l : Link) (k : Nat) (steps : Nat) : Link :=
  (List.replicate steps (ClientAction.resume k)).foldl act l

def begin (l : Link) (operation : Operation) : Link × Nat :=
  let k := l.client.calls.length
  ((l.act (.call operation)).advance k 6, k)

/-- Runs an operation to its end; its request has the time given to be answered. -/
def run (l : Link) (operation : Operation) (milliseconds : Nat) :
    Link × Except ServerError Unit :=
  let (l, k) := l.begin operation
  let l := if milliseconds = 0 then l else l.settle
  let l := (l.act (.expire k)).settle
  (l, (l.result? k).getD (.ok ()))

end Link
end Switchyard.Rpc
