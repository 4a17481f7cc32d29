import Switchyard.Machine.FileTree
import Switchyard.Server.Config
import Switchyard.Toml.Reader
import Switchyard.Toml.Record

namespace Switchyard

structure Settings where
  enabled : Bool
  /-- Only servers that name one of these languages are used. -/
  languages : Option (List String)
  handshakeTimeoutSecs : Nat
  prewarm : Bool
  ignore : List String
  /-- Servers added to, or put in the place of, the known ones. -/
  servers : List ServerConfig
  deriving DecidableEq, Inhabited

inductive SettingsError where
  | unreadable (path : Path) (cause : FileError)
  | malformed (path : Path)
  deriving DecidableEq, Inhabited

namespace SettingsError

def message (detail : String) : SettingsError → String
  | .unreadable path cause => "failed to read config at " ++ path.display ++ ": " ++ cause.message
  | .malformed path => "failed to parse config at " ++ path.display ++ ": " ++ detail

end SettingsError

namespace DocumentFilter

def ofToml? : Toml → Option DocumentFilter
  | .text id => some (.ofLanguage id)
  | .table entries => do
    let language ← Toml.optional? Toml.text? (entries.lookup "language")
    let pattern ← Toml.optional? Toml.text? (entries.lookup "pattern")
    let scheme ← Toml.optional? Toml.text? (entries.lookup "scheme")
    return .conditions language pattern scheme
  | .datetime => some (.conditions none none none)
  | _ => none

end DocumentFilter

namespace ServerConfig

def ofTomlFields? : List (Option Toml) → Option ServerConfig
  | [id, displayName, command, args, selector] => do
    let id ← id.bind Toml.text?
    let displayName ← Toml.defaulted? "" Toml.text? displayName
    let command ← command.bind Toml.text?
    let args ← Toml.defaulted? [] (Toml.list? Toml.text?) args
    let selector ← selector.bind (Toml.list? DocumentFilter.ofToml?)
    return { id, displayName, command, args, selector }
  | _ => none

def ofToml? (v : Toml) : Option ServerConfig := (v.fields? fieldNames).bind ofTomlFields?

end ServerConfig

namespace Settings

def default : Settings where
  enabled := true
  languages := none
  handshakeTimeoutSecs := 30
  prewarm := true
  ignore := []
  servers := []

def handshakeTimeout (s : Settings) : Nat := max s.handshakeTimeoutSecs 1

def fieldNames : List String :=
  ["enabled", "languages", "handshake_timeout_secs", "prewarm", "ignore", "servers"]

def ofFields? : List (Option Toml) → Option Settings
  | [enabled, languages, timeout, prewarm, ignore, servers] => do
    let enabled ← Toml.defaulted? true Toml.boolean? enabled
    let languages ← Toml.optional? (Toml.list? Toml.text?) languages
    let handshakeTimeoutSecs ← Toml.defaulted? 30 Toml.u64? timeout
    let prewarm ← Toml.defaulted? true Toml.boolean? prewarm
    let ignore ← Toml.defaulted? [] (Toml.list? Toml.text?) ignore
    let servers ← Toml.defaulted? [] (Toml.list? ServerConfig.ofToml?) servers
    return { enabled, languages, handshakeTimeoutSecs, prewarm, ignore, servers }
  | _ => none

def ofToml? (v : Toml) : Option Settings := (v.fields? fieldNames).bind ofFields?

/-- The settings of a document: its section `lsp`, or the defaults if it has none. -/
def ofDocument? (document : Toml) : Option Settings :=
  match document.fields? ["lsp"] with
  | some [some v] => ofToml? v
  | some [none] => some default
  | _ => none

/-- The settings of a configuration file, if there is one. A relative path starts in the directory.
-/
def load (files : FileTree) (directory path : Path) : Except SettingsError (Option Settings) :=
  if !files.exists? (directory.join path) then .ok none
  else
    match files.readText (directory.join path) with
    | .error e => .error (.unreadable path e)
    | .ok text =>
      match (Toml.parse? text.toList).bind ofDocument? with
      | some s => .ok (some s)
      | none => .error (.malformed path)

end Settings
end Switchyard
