import Switchyard.Path

namespace Switchyard

inductive ServerError where
  | spawn (command reason : String)
  /-- The server answered `initialize` with an error, or hung up before it did. -/
  | handshake (server reason : String)
  | handshakeTimeout (server : String) (milliseconds : Nat)
  | read (path : Path) (reason : String)
  | transport (server reason : String)
  /-- An earlier spawn failure ruled the client out for the session. -/
  | unusable (id : String)
  | unknownClient (id : String)
  deriving DecidableEq, Inhabited

namespace ServerError

def message : ServerError → String
  | .spawn command reason => "failed to spawn '" ++ command ++ "': " ++ reason
  | .handshake server reason => "initialize handshake with '" ++ server ++ "' failed: " ++ reason
  | .handshakeTimeout server ms =>
    "initialize handshake with '" ++ server ++ "' timed out after " ++ toString (ms / 1000) ++ "s"
  | .read path reason => "cannot read " ++ path.display ++ ": " ++ reason
  | .transport server reason => "transport to '" ++ server ++ "' failed: " ++ reason
  | .unusable id => "language server '" ++ id ++ "' is unusable for this session"
  | .unknownClient id => "no language server configured with id '" ++ id ++ "'"

/-- Whether a later attempt can succeed. After a failed spawn none can: the executable is
missing. -/
def isRetryable : ServerError → Bool
  | .spawn _ _ | .unusable _ => false
  | _ => true

end ServerError
end Switchyard
