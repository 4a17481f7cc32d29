import Switchyard.Document.Glob
import Switchyard.Watch.IgnoreFile

namespace Switchyard

structure WatchFilter where
  root : Path
  rules : IgnoreFile
  extra : List Glob
  deriving Inhabited

namespace WatchFilter

/-- The filter of a root, with the rules of its ignore file if that is a file. There is none if a
rule cannot be used. -/
def load? (files : FileTree) (root : Path) (patterns : List String) : Option WatchFilter :=
  let rules := IgnoreFile.load files (root.join (.ofString ".gitignore"))
  if rules.isUsable then some { root, rules, extra := patterns.map Glob.ofString } else none

/-- Whether a relative name is that of the repository's directory or below it. -/
def isRepository (name : List Char) : Bool :=
  match Path.afterPrefix? ".git".toList name with
  | some rest => rest.isEmpty || rest.head? == some '/'
  | none => false

def withoutHere : List UInt8 → List UInt8
  | 46 :: 47 :: bytes => bytes
  | bytes => bytes

/-- The bytes of a path that are left after those of the root and one slash. Nothing is taken off a
mere file name, or for the root `.`. -/
def belowRoot (f : WatchFilter) (file : Path) : List UInt8 :=
  let root := withoutHere f.root.bytes
  let bytes := withoutHere file.bytes
  if (⟨root⟩ : Path).components == [.here] || !bytes.contains Path.slash then bytes
  else
    let rest := (Path.afterPrefix? root bytes).getD bytes
    if rest.head? == some Path.slash then rest.drop 1 else rest

/-- Whether an event of the file matters. There is no answer where the rules would be asked about a
path that is still absolute: that is a defect of the caller for them, and they end the program. -/
def judge? (f : WatchFilter) (file : Path) : Option Bool :=
  let file := f.root.join file
  let name := file.relativeName f.root
  if !file.startsWith f.root || isRepository name || f.extra.any (fun g => g.isMatch name) then
    some false
  else if f.rules.isEmpty then some true
  else
    let below := f.belowRoot file
    if (⟨below⟩ : Path).isAbsolute then none else some !f.rules.ignores below

def accepts (f : WatchFilter) (file : Path) : Bool := f.judge? file == some true

def fails (f : WatchFilter) (file : Path) : Bool := (f.judge? file).isNone

end WatchFilter
end Switchyard
