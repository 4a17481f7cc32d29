import Switchyard.Number.Natural
import Switchyard.Path
import Switchyard.Text.Quoted

namespace Switchyard

inductive Argument where
  | root (directory : Path)
  | wait (milliseconds : Nat)
  | dryRun
  | help
  | word (text : String)
  deriving DecidableEq, Inhabited

inductive ArgumentError where
  | noDirectory
  | noWait
  | invalidWait (text : String) (cause : NaturalError)
  | unknownOption (text : String)
  | noFiles
  | unknownCommand (text : String)
  deriving DecidableEq, Inhabited

def ArgumentError.message : ArgumentError → String
  | .noDirectory => "--root needs a directory"
  | .noWait => "--wait-ms needs a value"
  | .invalidWait text cause =>
    "invalid --wait-ms value " ++ Text.quoted text.toList ++ ": " ++ cause.message
  | .unknownOption text => "unknown option " ++ text
  | .noFiles => "diagnostics needs at least one file"
  | .unknownCommand text => "unknown command " ++ Text.quoted text.toList

namespace Argument

def isOption (text : String) : Bool :=
  match text.toList with
  | '-' :: '-' :: _ => true
  | _ => false

def readWait (text : String) : Except ArgumentError Nat :=
  match Natural.read (Nat.pow 2 64) text.toList with
  | .ok n => .ok n
  | .error e => .error (.invalidWait text e)

/-- Reads the words from left to right; an option with a value takes the next word, whatever it
is. -/
def read : List String → Except ArgumentError (List Argument)
  | [] => .ok []
  | text :: rest =>
    if text = "--root" then
      match rest with
      | [] => .error .noDirectory
      | directory :: rest => (read rest).map (.root (.ofString directory) :: ·)
    else if text = "--wait-ms" then
      match rest with
      | [] => .error .noWait
      | value :: rest =>
        match readWait value with
        | .error e => .error e
        | .ok n => (read rest).map (.wait n :: ·)
    else if text = "--dry-run" then (read rest).map (.dryRun :: ·)
    else if text = "-h" ∨ text = "--help" then (read rest).map (.help :: ·)
    else if isOption text then .error (.unknownOption text)
    else (read rest).map (.word text :: ·)

def root? : Argument → Option Path
  | .root directory => some directory
  | _ => none

def wait? : Argument → Option Nat
  | .wait n => some n
  | _ => none

def word? : Argument → Option String
  | .word text => some text
  | _ => none

end Argument

inductive Command where
  /-- Opens files, and prints what the servers report on them within the wait. -/
  | diagnostics (files : List Path) (waitMs : Nat)
  /-- Starts the servers that the project's layout suggests, or only names them. -/
  | prewarm (dryRun : Bool)
  | servers
  | help
  deriving DecidableEq, Inhabited

structure Invocation where
  root : Option Path
  command : Command
  deriving DecidableEq, Inhabited

namespace Invocation

def defaultWaitMs : Nat := 3000

def usage : List String := [
  "Usage: anvil [--root DIR] <command>",
  "",
  "Commands:",
  "  diagnostics <files...> [--wait-ms N]   Open files and print diagnostics",
  "  prewarm [--dry-run]                    Start servers the project layout suggests",
  "  servers                                List configured language servers",
  "  help                                   Show this message",
  "",
  "Options:",
  "  --root DIR    Workspace root (default: current directory)"]

def commandOf (waitMs : Nat) (dryRun : Bool) : List String → Except ArgumentError Command
  | [] => .ok .help
  | name :: files =>
    if name = "help" then .ok .help
    else if name = "diagnostics" then
      if files.isEmpty then .error .noFiles
      else .ok (.diagnostics (files.map Path.ofString) waitMs)
    else if name = "prewarm" then .ok (.prewarm dryRun)
    else if name = "servers" then .ok .servers
    else .error (.unknownCommand name)

/-- What arguments ask for. Of options that are repeated the last one counts, and help goes before
any command. -/
def ofArguments (args : List Argument) : Except ArgumentError Invocation := do
  let root := (args.filterMap Argument.root?).getLast?
  let waitMs := (args.filterMap Argument.wait?).getLast?.getD defaultWaitMs
  let words := if .help ∈ args then [] else args.filterMap Argument.word?
  return { root, command := ← commandOf waitMs (.dryRun ∈ args) words }

def read (line : List String) : Except ArgumentError Invocation := do
  ofArguments (← Argument.read line)

end Invocation
end Switchyard
