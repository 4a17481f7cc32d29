import Switchyard.Machine.FileTree
import Switchyard.Server.Config
import Switchyard.Server.Script
import Switchyard.Server.Secret

namespace Switchyard

structure Machine where
  files : FileTree
  environment : Environment
  current : Path
  /-- The servers, by the names of their files from the root of the tree. -/
  servers : List (List (List UInt8) × ServerScript)
  deriving Inhabited

namespace Machine

def splitColons : List UInt8 → List (List UInt8)
  | [] => [[]]
  | b :: bs =>
    if b == 58 then [] :: splitColons bs
    else
      match splitColons bs with
      | [] => [[b]]
      | s :: ss => (b :: s) :: ss

def isExecutable (m : Machine) (p : Path) : Bool :=
  match m.files.find (m.current.join p) with
  | .ok (.file _ executable) => executable
  | _ => false

def home? (m : Machine) : Option Path :=
  match m.environment.lookup "HOME" with
  | none | some "" => none
  | some home => some (.ofString home)

/-- The component that stands for the home directory at the start of a search path's directory. -/
def homeMark : Path.Component := .named [126]

/-- A directory of a search path, with the home directory in the place of its mark. -/
def expandHome (m : Machine) (directory : Path) : Path :=
  match directory.components, m.home? with
  | c :: rest, some home => if c = homeMark then home.through rest else directory
  | _, _ => directory

/-- The places where a command may lie: the directories of the search path, or the current one if
the command is more than a name. -/
def places (m : Machine) (command : Path) : List Path :=
  if 1 < command.components.length then
    if command.isAbsolute then [command]
    else [m.current.through (command.components.dropWhile (· = .here))]
  else
    match m.environment.lookup "PATH" with
    | none => []
    | some dirs =>
      (splitColons (Text.Utf8.ofString dirs)).map fun d => (m.expandHome ⟨d⟩).join command

def which? (m : Machine) (command : String) : Option Path :=
  (m.places (.ofString command)).find? m.isExecutable

def hasCommand (m : Machine) (command : String) : Bool := (m.which? command).isSome

def isBlankByte (b : UInt8) : Bool := b == 32 || b == 9

def endsName (b : UInt8) : Bool := isBlankByte b || b == 0

/-- So many bytes at the start of a file decide how it is started; a shorter file is filled up
with zeros. -/
def headerSize : Nat := 256

/-- The interpreter that the first line of a script names, none if it names none or is cut off
inside of the name. -/
def interpreterName? (header : List UInt8) : Option (List UInt8) :=
  let line := (header.takeWhile (· != 10)).dropWhile isBlankByte
  let isWhole := header.contains 10
  if line.isEmpty || !(isWhole || line.any endsName) then none
  else some (line.takeWhile fun b => !endsName b)

def programMark : List UInt8 := [127, 69, 76, 70]

def maxScripts : Nat := 5

/-- Why a program with a certain content does not start in a directory, if it does not. The
interpreters of `fuel` scripts, one of the other, are looked for. -/
def contentError? (m : Machine) (directory : Path) : Nat → List UInt8 → Option FileError
  | fuel, 35 :: 33 :: rest =>
    let header := (rest ++ List.replicate headerSize 0).take (headerSize - 2)
    match interpreterName? header with
    | none => some .notExecutable
    | some name =>
      match m.files.find (directory.join ⟨name⟩) with
      | .error e => some e
      | .ok (.file content true) =>
        match fuel with
        | 0 => some .tooManyLinks
        | fuel + 1 => contentError? m directory fuel content
      | .ok _ => some .permissionDenied
  | _, content => if programMark.isPrefixOf content then none else some .notExecutable

def startError? (m : Machine) (program directory : Path) : Option FileError :=
  match m.files.find directory with
  | .error e => some e
  | .ok (.file _ _) => some .notADirectory
  | .ok .directory =>
    match m.files.readBytes program with
    | .error e => some e
    | .ok content => m.contentError? directory maxScripts content

structure Launch where
  program : Path
  args : List String
  directory : Path
  environment : Environment
  deriving DecidableEq, Inhabited

/-- How the server of a configuration is started in a directory, in which a relative path of its
program starts. Secrets are withheld from it. -/
def launch (m : Machine) (config : ServerConfig) (directory : Path) :
    Except ServerError Launch :=
  match m.which? config.command with
  | none => .error (.spawn config.command "not found in PATH: cannot find binary path")
  | some found =>
    let program := directory.join found
    match m.startError? program directory with
    | some e => .error (.spawn config.command e.message)
    | none =>
      .ok { program, args := config.args, directory, environment := m.environment.withoutSecrets }

def connect (m : Machine) (id : String) (launch : Launch) : Rpc.Link :=
  match (m.files.resolve launch.program).toOption.bind fun names => m.servers.lookup names with
  | some script => .connect id script.answer
  | none => (Rpc.Link.connect id fun _ => []).send .close

/-- Starts the server of a configuration in a directory, and runs the handshake. -/
def spawn (m : Machine) (config : ServerConfig) (directory : Path) (milliseconds : Nat) :
    Except ServerError Rpc.Link := do
  let launch ← m.launch config directory
  let (link, result) :=
    (m.connect config.id launch).run (.handshake launch.directory milliseconds) milliseconds
  result.map fun _ => link

end Machine
end Switchyard
