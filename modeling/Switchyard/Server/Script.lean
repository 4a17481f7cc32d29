import Switchyard.Rpc.Peer

namespace Switchyard

inductive Greeting where
  | accept
  | reject (error : Json)
  | hang
  | exit
  | garbage
  deriving Inhabited

structure ServerScript where
  greeting : Greeting
  asks : List String
  diagnostics : Option Json
  /-- The document that it reports on, in the place of the one that was opened. -/
  uri : Option Json
  version : Option Json
  exitAfterOpen : Bool
  rejectsShutdown : Bool
  deriving Inhabited

namespace ServerScript

def response (id : Json) (key : String) (value : Json) : Rpc.PeerMessage :=
  .value (.ofMembers [("jsonrpc", .str "2.0"), ("id", id), (key, value)])

def ask (method : String) : Rpc.PeerMessage :=
  .value (.ofMembers [("jsonrpc", .str "2.0"), ("id", .str method), ("method", .str method),
    ("params", .obj [])])

def greet (s : ServerScript) (id : Json) : List Rpc.PeerMessage :=
  match s.greeting with
  | .accept => s.asks.map ask ++ [response id "result" (.ofMembers [("capabilities", .obj [])])]
  | .reject error => [response id "error" error]
  | .hang => []
  | .exit => [.close]
  | .garbage => [.raw (Text.Utf8.ofString "hello\r\n\r\n"), .close]

def report (s : ServerScript) (opened : Option Json) : List Rpc.PeerMessage :=
  match s.diagnostics with
  | none => []
  | some items =>
    [.value (Rpc.notification Rpc.publishDiagnostics
      (some (.present [("uri", s.uri.or opened), ("version", s.version),
        ("diagnostics", some items)])))]

def answer (s : ServerScript) (frame : Json) : List Rpc.PeerMessage :=
  match Rpc.Peer.method? frame with
  | some "initialize" => s.greet (Rpc.Peer.idOf frame)
  | some "textDocument/didOpen" =>
    let document := (frame.get? "params").bind (·.get? "textDocument")
    s.report (document.bind (·.get? "uri")) ++ if s.exitAfterOpen then [.close] else []
  | some "shutdown" =>
    if s.rejectsShutdown then
      [response (Rpc.Peer.idOf frame) "error" (.ofMembers [("code", .int 1),
        ("message", .str "no")]), .close]
    else [response (Rpc.Peer.idOf frame) "result" .null]
  | some "exit" => [.close]
  | _ => []

end ServerScript
end Switchyard
