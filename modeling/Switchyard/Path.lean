import Switchyard.Text.Utf8

namespace Switchyard

structure Path where
  bytes : List UInt8
  deriving DecidableEq, Inhabited

namespace Path

inductive Component where
  | root
  | here
  | up
  | named (name : List UInt8)
  deriving DecidableEq, Inhabited

def slash : UInt8 := 47

def dot : UInt8 := 46

def ofString (s : String) : Path := ⟨Text.Utf8.ofString s⟩

def display (p : Path) : String := Text.Utf8.decodeLossy p.bytes

def isAbsolute (p : Path) : Bool := p.bytes.head? == some slash

def segments : List UInt8 → List (List UInt8)
  | [] => [[]]
  | b :: bs =>
    if b == slash then [] :: segments bs
    else
      match segments bs with
      | [] => [[b]]
      | s :: ss => (b :: s) :: ss

def innerComponents : List (List UInt8) → List Component
  | [] => []
  | s :: ss =>
    if s.isEmpty || s == [dot] then innerComponents ss
    else if s == [dot, dot] then .up :: innerComponents ss
    else .named s :: innerComponents ss

def components (p : Path) : List Component :=
  match segments p.bytes with
  | [] => []
  | s :: ss =>
    if s.isEmpty then if p.isAbsolute then .root :: innerComponents ss else innerComponents ss
    else if s == [dot] then .here :: innerComponents ss
    else innerComponents (s :: ss)

def join (dir file : Path) : Path :=
  if file.isAbsolute then file
  else if dir.bytes.isEmpty || dir.bytes.getLast? == some slash then ⟨dir.bytes ++ file.bytes⟩
  else ⟨dir.bytes ++ slash :: file.bytes⟩

def Component.path : Component → Path
  | .root => ⟨[slash]⟩
  | .here => ⟨[dot]⟩
  | .up => ⟨[dot, dot]⟩
  | .named name => ⟨name⟩

def through (dir : Path) (components : List Component) : Path :=
  components.foldl (fun p c => p.join c.path) dir

/-- The names on the way to an absolute path from the root, `..` taken back. -/
def names (p : Path) : List (List UInt8) :=
  p.components.foldl (fun names c =>
    match c with
    | .named n => names ++ [n]
    | .up => names.dropLast
    | .root | .here => names) []

def fileName? (p : Path) : Option (List UInt8) :=
  match p.components.getLast? with
  | some (.named n) => some n
  | _ => none

def afterPrefix? {α : Type} [DecidableEq α] : List α → List α → Option (List α)
  | [], ys => some ys
  | x :: xs, y :: ys => if x = y then afterPrefix? xs ys else none
  | _ :: _, [] => none

def startsWith (p base : Path) : Bool :=
  (afterPrefix? base.components p.components).isSome

def Component.text? : Component → Option String
  | .root => some ""
  | .here => none
  | .up => some ".."
  | .named n => some ((Text.Utf8.decodeLossy n).map fun c => if c == '\\' then '/' else c)

def dropHere : List Char → List Char
  | '.' :: '/' :: cs => cs
  | cs => cs

/-- The name of `file` relative to `root`, with forward slashes; a file that is not below `root`
keeps its whole path. -/
def relativeName (file root : Path) : List Char :=
  let components := (afterPrefix? root.components file.components).getD file.components
  dropHere ("/".intercalate (components.filterMap Component.text?)).toList

end Path
end Switchyard
