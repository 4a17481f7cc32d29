import Switchyard.Path

namespace Switchyard

/-- Why the system refuses a file operation. -/
inductive FileError where
  | notFound
  | notADirectory
  | isADirectory
  | nameTooLong
  | nulInName
  | notUtf8
  | notExecutable
  | permissionDenied
  | tooManyLinks
  deriving DecidableEq, Inhabited

def FileError.message : FileError → String
  | .notFound => "No such file or directory (os error 2)"
  | .notADirectory => "Not a directory (os error 20)"
  | .isADirectory => "Is a directory (os error 21)"
  | .nameTooLong => "File name too long (os error 36)"
  | .nulInName => "file name contained an unexpected NUL byte"
  | .notUtf8 => "stream did not contain valid UTF-8"
  | .notExecutable => "Exec format error (os error 8)"
  | .permissionDenied => "Permission denied (os error 13)"
  | .tooManyLinks => "Too many levels of symbolic links (os error 40)"

inductive FileNode where
  | file (content : List UInt8) (executable : Bool)
  | directory
  deriving DecidableEq, Inhabited

/-- The nodes by their names from the root of the tree, which is the empty list of names. -/
structure FileTree where
  nodes : List (List (List UInt8) × FileNode)
  deriving Inhabited

namespace FileTree

def empty : FileTree := ⟨[([], .directory)]⟩

def node? (t : FileTree) (names : List (List UInt8)) : Option FileNode :=
  t.nodes.lookup names

def erase (t : FileTree) (names : List (List UInt8)) : FileTree :=
  ⟨t.nodes.filter fun n => n.1 != names⟩

def set (t : FileTree) (names : List (List UInt8)) (node : FileNode) : FileTree :=
  ⟨(names, node) :: (t.erase names).nodes⟩

def makeDirectories (t : FileTree) (names : List (List UInt8)) : FileTree :=
  (List.range (names.length + 1)).foldl
    (fun t n => if (t.node? (names.take n)).isNone then t.set (names.take n) .directory else t) t

/-- Puts a node at `names`, below directories that are made where they are missing. -/
def put (t : FileTree) (names : List (List UInt8)) (node : FileNode) : FileTree :=
  match node with
  | .directory => t.makeDirectories names
  | node => (t.makeDirectories names.dropLast).set names node

def walk (t : FileTree) (here : List (List UInt8)) :
    List (List UInt8) → Except FileError (List (List UInt8))
  | [] => .ok here
  | s :: ss =>
    match t.node? here with
    | some .directory =>
      if s.isEmpty || s == [Path.dot] then walk t here ss
      else if s == [Path.dot, Path.dot] then walk t here.dropLast ss
      else if s.length > 255 then .error .nameTooLong
      else if (t.node? (here ++ [s])).isSome then walk t (here ++ [s]) ss
      else .error .notFound
    | some _ => .error .notADirectory
    | none => .error .notFound

/-- Follows the segments of a path from the place `here`, and makes the directories that are missing
on the way. Gives the tree and the place where the path ends. -/
def extend (t : FileTree) (here : List (List UInt8)) :
    List (List UInt8) → Except FileError (FileTree × List (List UInt8))
  | [] => if t.node? here = some .directory then .ok (t, here) else .error .notADirectory
  | s :: ss =>
    match t.node? here with
    | some .directory =>
      if s.isEmpty || s == [Path.dot] then extend t here ss
      else if s == [Path.dot, Path.dot] then extend t here.dropLast ss
      else if s.length > 255 then .error .nameTooLong
      else if (t.node? (here ++ [s])).isSome then extend t (here ++ [s]) ss
      else extend (t.set (here ++ [s]) .directory) (here ++ [s]) ss
    | some _ => .error .notADirectory
    | none => .error .notFound

def resolve (t : FileTree) (p : Path) : Except FileError (List (List UInt8)) :=
  if p.bytes.contains 0 then .error .nulInName
  else if p.bytes.isEmpty then .error .notFound
  else if p.bytes.length > 4095 then .error .nameTooLong
  else walk t [] (Path.segments p.bytes)

def find (t : FileTree) (p : Path) : Except FileError FileNode := do
  let names ← t.resolve p
  match t.node? names with
  | some n => .ok n
  | none => .error .notFound

def exists? (t : FileTree) (p : Path) : Bool := (t.find p).isOk

def isDirectory (t : FileTree) (p : Path) : Bool :=
  match t.find p with
  | .ok .directory => true
  | _ => false

def isFile (t : FileTree) (p : Path) : Bool :=
  match t.find p with
  | .ok (.file _ _) => true
  | _ => false

def readBytes (t : FileTree) (p : Path) : Except FileError (List UInt8) := do
  match ← t.find p with
  | .file content _ => .ok content
  | .directory => .error .isADirectory

def readText (t : FileTree) (p : Path) : Except FileError String := do
  match Text.Utf8.toString? (← t.readBytes p) with
  | some s => .ok s
  | none => .error .notUtf8

end FileTree
end Switchyard
