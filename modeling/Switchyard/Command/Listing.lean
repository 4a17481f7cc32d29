import Switchyard.Server.Config

namespace Switchyard

def Text.padRight (width : Nat) (s : String) : String :=
  s ++ String.ofList (List.replicate (width - s.length) ' ')

namespace ServerConfig

def commandLine (c : ServerConfig) : String := " ".intercalate (c.command :: c.args)

def line (c : ServerConfig) (available : Bool) : String :=
  " ".intercalate [Text.padRight 12 c.id,
    Text.padRight 9 (if available then "available" else "missing"),
    Text.padRight 40 c.commandLine, "[" ++ ", ".intercalate c.selector.languages ++ "]"]

end ServerConfig
end Switchyard
