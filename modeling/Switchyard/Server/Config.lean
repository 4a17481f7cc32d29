import Switchyard.Document.Selector
import Switchyard.Json.Record

namespace Switchyard

structure ServerConfig where
  id : String
  displayName : String
  command : String
  args : List String
  selector : DocumentSelector
  deriving DecidableEq, Inhabited

namespace ServerConfig

def label (c : ServerConfig) : String :=
  if c.displayName.isEmpty then c.id else c.displayName

end ServerConfig

namespace DocumentFilter

def ofJson? : Json → Option DocumentFilter
  | .str id => some (.ofLanguage id)
  | .obj members => do
    let language ← Json.optional? Json.str? (members.lookup "language")
    let pattern ← Json.optional? Json.str? (members.lookup "pattern")
    let scheme ← Json.optional? Json.str? (members.lookup "scheme")
    return .conditions language pattern scheme
  | _ => none

def toJson : DocumentFilter → Json
  | .ofLanguage id => .str id
  | .conditions language pattern scheme =>
    .present [("language", language.map .str), ("pattern", pattern.map .str),
      ("scheme", scheme.map .str)]

end DocumentFilter

namespace DocumentSelector

def ofJson? : Json → Option DocumentSelector := Json.list? DocumentFilter.ofJson?

def toJson (s : DocumentSelector) : Json := .arr (s.map DocumentFilter.toJson)

end DocumentSelector

namespace ServerConfig

def fieldNames : List String := ["id", "display_name", "command", "args", "selector"]

def ofFields? : List (Option Json) → Option ServerConfig
  | [id, displayName, command, args, selector] => do
    let id ← Json.required? Json.str? id
    let displayName ← Json.defaulted? "" Json.str? displayName
    let command ← Json.required? Json.str? command
    let args ← Json.defaulted? [] Json.strings? args
    let selector ← Json.required? DocumentSelector.ofJson? selector
    return { id, displayName, command, args, selector }
  | _ => none

def ofJson? (j : Json) : Option ServerConfig := (j.fields? fieldNames).bind ofFields?

def toJson (c : ServerConfig) : Json :=
  .ofMembers [("id", .str c.id), ("display_name", .str c.displayName), ("command", .str c.command),
    ("args", .arr (c.args.map .str)), ("selector", c.selector.toJson)]

end ServerConfig
end Switchyard
