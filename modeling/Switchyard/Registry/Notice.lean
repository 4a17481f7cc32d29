import Switchyard.Rpc.Message

namespace Switchyard

inductive Notice where
  | didOpen (uri language : String) (version : Int32) (text : String)
  | didChange (uri : String) (version : Int32) (text : String)
  | didClose (uri : String)
  | other (method : String) (params : Json)
  deriving Inhabited

namespace Notice

def method : Notice → String
  | .didOpen _ _ _ _ => Rpc.didOpen
  | .didChange _ _ _ => Rpc.didChange
  | .didClose _ => Rpc.didClose
  | .other method _ => method

def params : Notice → Json
  | .didOpen uri language version text => Rpc.didOpenParams uri language version text
  | .didChange uri version text => Rpc.didChangeParams uri version text
  | .didClose uri => Rpc.didCloseParams uri
  | .other _ params => params

end Notice
end Switchyard
