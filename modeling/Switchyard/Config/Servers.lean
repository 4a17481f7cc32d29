import Switchyard.Config.Environment
import Switchyard.Config.Settings

namespace Switchyard

namespace ServerConfig

def ofLanguages (id displayName command : String) (args languages : List String) : ServerConfig :=
  { id, displayName, command, args, selector := languages.map .ofLanguage }

def scriptLanguages : List String :=
  ["typescript", "typescriptreact", "javascript", "javascriptreact"]

def known : List ServerConfig := [
  .ofLanguages "typescript" "TypeScript" "typescript-language-server" ["--stdio"] scriptLanguages,
  .ofLanguages "eslint" "ESLint" "vscode-eslint-language-server" ["--stdio"] scriptLanguages,
  .ofLanguages "pyright" "Pyright" "pyright-langserver" ["--stdio"] ["python"],
  .ofLanguages "rust" "rust-analyzer" "rust-analyzer" [] ["rust"],
  .ofLanguages "go" "gopls" "gopls" [] ["go"],
  .ofLanguages "lua" "LuaLS" "lua-language-server" [] ["lua"],
  .ofLanguages "dockerfile" "Dockerfile" "docker-langserver" ["--stdio"] ["dockerfile"],
  .ofLanguages "markdown" "Marksman" "marksman" ["server"] ["markdown"],
  .ofLanguages "json" "JSON" "vscode-json-language-server" ["--stdio"] ["json", "jsonc"]]

/-- Replaces references to the environment in the command and its arguments. -/
def expand (env : Environment) (c : ServerConfig) : ServerConfig :=
  { c with command := env.expandString c.command, args := c.args.map env.expandString }

/-- Puts a server in the place of the first one with its id, or at the end. -/
def override (c : ServerConfig) : List ServerConfig → List ServerConfig
  | [] => [c]
  | d :: rest => if d.id == c.id then c :: rest else d :: override c rest

end ServerConfig

namespace Settings

/-- The known servers with those of the settings put over them, in their order. -/
def mergedServers (s : Settings) (env : Environment) : List ServerConfig :=
  s.servers.foldl (fun servers c => (c.expand env).override servers) ServerConfig.known

def allows (s : Settings) (c : ServerConfig) : Bool :=
  match s.languages with
  | none => true
  | some allowed => c.selector.languages.any allowed.contains

def resolve (s : Settings) (env : Environment) (commandExists : String → Bool) :
    List ServerConfig :=
  if s.enabled then
    (s.mergedServers env).filter fun c => s.allows c && commandExists c.command
  else []

end Settings
end Switchyard
