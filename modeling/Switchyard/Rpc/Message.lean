import Switchyard.Diagnostic.Basic
import Switchyard.Rpc.Frame

namespace Switchyard.Rpc

def methodNotFound : Int := -32601

def request (id : Nat) (method : String) (params : Option Json) : Json :=
  .present [("jsonrpc", some (.str "2.0")), ("id", some (.nat id)), ("method", some (.str method)),
    ("params", params)]

def notification (method : String) (params : Option Json) : Json :=
  .present [("jsonrpc", some (.str "2.0")), ("method", some (.str method)), ("params", params)]

def initializeParams (processId : Json) (rootUri rootName : String) : Json :=
  .ofMembers [
    ("processId", processId),
    ("rootUri", .str rootUri),
    ("capabilities", .ofMembers [
      ("workspace", .ofMembers [("configuration", .bool true), ("workspaceFolders", .bool true)]),
      ("textDocument", .ofMembers [
        ("synchronization", .ofMembers [("dynamicRegistration", .bool false),
          ("willSave", .bool false), ("willSaveWaitUntil", .bool false), ("didSave", .bool false)]),
        ("publishDiagnostics", .ofMembers [("relatedInformation", .bool false),
          ("versionSupport", .bool true)])])]),
    ("workspaceFolders", .arr [.ofMembers [("uri", .str rootUri), ("name", .str rootName)]])]

def didOpen : String := "textDocument/didOpen"

def didChange : String := "textDocument/didChange"

def didClose : String := "textDocument/didClose"

def publishDiagnostics : String := "textDocument/publishDiagnostics"

def didOpenParams (uri language : String) (version : Int32) (text : String) : Json :=
  .ofMembers [("textDocument", .ofMembers [("uri", .str uri), ("languageId", .str language),
    ("version", .int version.toInt), ("text", .str text)])]

def didChangeParams (uri : String) (version : Int32) (text : String) : Json :=
  .ofMembers [("textDocument", .ofMembers [("uri", .str uri), ("version", .int version.toInt)]),
    ("contentChanges", .arr [.ofMembers [("text", .str text)]])]

def didCloseParams (uri : String) : Json :=
  .ofMembers [("textDocument", .ofMembers [("uri", .str uri)])]

structure PublishDiagnostics where
  uri : String
  version : Option Int32
  diagnostics : List Diagnostic
  deriving DecidableEq, Inhabited

namespace PublishDiagnostics

def fieldNames : List String := ["uri", "version", "diagnostics"]

/-- A report without a URI is refused; a diagnostic that is malformed is left out. -/
def ofFields? : List (Option Json) → Option PublishDiagnostics
  | [uri, version, diagnostics] => do
    let uri ← Json.optional? Json.str? uri
    let version ← Json.optional? Json.int32? version
    let items ← Json.defaulted? [] Json.arr? diagnostics
    match uri with
    | none => none
    | some uri =>
      if uri.isEmpty then none
      else some { uri, version, diagnostics := items.filterMap Diagnostic.ofJson? }
  | _ => none

def ofParams? (params : Option Json) : Option PublishDiagnostics :=
  params.bind fun j => (j.fields? fieldNames).bind ofFields?

end PublishDiagnostics

/-- The reply to a request of the server. Servers wait for the answers to configuration and
registration requests, so these get neutral results; no other method is known. -/
def reply (id : Json) (method : String) (params : Option Json) : Json :=
  let result (j : Json) : Json := .ofMembers [("jsonrpc", .str "2.0"), ("id", id), ("result", j)]
  if method = "workspace/configuration" then
    let items := ((params.bind (·.get? "items")).bind Json.arr?).getD []
    result (.arr (List.replicate items.length .null))
  else if method ∈ ["client/registerCapability", "client/unregisterCapability",
      "window/workDoneProgress/create", "window/showMessageRequest",
      "workspace/workspaceFolders"] then
    result .null
  else
    .ofMembers [("jsonrpc", .str "2.0"), ("id", id), ("error", .ofMembers [
      ("code", .int methodNotFound), ("message", .str ("Method not found: " ++ method))])]

inductive Incoming where
  /-- The reply to a request of ours, with the whole frame. -/
  | response (id : Nat) (body : Json)
  | request (id : Json) (method : String) (params : Option Json)
  | notification (method : String) (params : Option Json)
  deriving Inhabited

def Incoming.classify? (frame : Json) : Option Incoming :=
  let method := (frame.get? "method").bind Json.str?
  let isReply := (frame.get? "result").isSome || (frame.get? "error").isSome
  match frame.get? "id", method with
  | some id, none => if isReply then id.u64?.map fun n => .response n frame else none
  | some id, some method => some (.request id method (frame.get? "params"))
  | none, some method => some (.notification method (frame.get? "params"))
  | none, none => none

/-- Looks for a message at the front of the bytes. Frames that are no messages are skipped. -/
def nextMessage (ended : Bool) (bytes : List UInt8) : Scan Incoming :=
  match _h : scan ended bytes with
  | .found frame rest =>
    match Incoming.classify? frame with
    | some m => .found m rest
    | none => nextMessage ended rest
  | .finished => .finished
  | .unfinished => .unfinished
  | .failed e => .failed e
termination_by bytes.length
decreasing_by exact scan_rest_length _h

end Switchyard.Rpc
