import Switchyard.Uri.Percent

namespace Switchyard.Uri

/-- The kinds of schemes that are read differently. -/
inductive SchemeKind where
  | file
  /-- Schemes of the web: an authority is obligatory and a backslash is a separator. -/
  | web
  | other
  deriving DecidableEq, Inhabited

def isSkipped (c : Char) : Bool := c == '\t' || c == '\n' || c == '\r'

def isAsciiLetter (c : Char) : Bool := ('a' ≤ c && c ≤ 'z') || ('A' ≤ c && c ≤ 'Z')

def SchemeKind.isSeparator (kind : SchemeKind) (c : Char) : Bool :=
  c == '/' || (c == '\\' && kind != .other)

def isSingleDot (segment : List Char) : Bool :=
  segment.map Char.toLower ∈ [['.'], ['%', '2', 'e']]

def isDoubleDot (segment : List Char) : Bool :=
  segment.map Char.toLower ∈ [['.', '.'], ['.', '%', '2', 'e'], ['%', '2', 'e', '.'],
    ['%', '2', 'e', '%', '2', 'e']]

/-- Whether a segment is a letter and a colon or bar, alone or before a backslash. -/
def isDriveLike : List Char → Bool
  | [c, m] => isAsciiLetter c && (m == ':' || m == '|')
  | c :: m :: '\\' :: _ => isAsciiLetter c && (m == ':' || m == '|')
  | _ => false

def pop : List (List Char) → List (List Char)
  | [] => []
  | s :: rest => if isDriveLike s then s :: rest else rest

/-- In a path of files, a first segment that begins with a drive and then a skipped character is
cut there; gives the drive and the rest. -/
def cutDrive? (segment : List Char) : Option (List Char × List Char) :=
  match segment.dropWhile isSkipped with
  | [] => none
  | c :: rest =>
    match rest.dropWhile isSkipped with
    | ':' :: rest =>
      let tail := rest.filter fun c => !isSkipped c
      if isAsciiLetter c && rest.head?.any isSkipped && !tail.isEmpty then some ([c, ':'], tail)
      else none
    | _ => none

def drive? : List Char → Option (List Char)
  | [c, m] => if isAsciiLetter c && (m == ':' || m == '|') then some [c, ':'] else none
  | _ => none

/-- The segments read so far, the last one first. -/
structure Stack where
  segments : List (List Char)
  hasDrive : Bool

def Stack.push (stack : Stack) (kind : SchemeKind) (raw : List Char) (isLast : Bool) : Stack :=
  let atBottom := kind == .file && stack.segments.isEmpty
  match if atBottom then cutDrive? raw else none with
  | some (drive, rest) => { stack with segments := [rest, drive] }
  | none =>
    let ending := if isLast then [[]] else []
    let segment := raw.filter fun c => !isSkipped c
    if isDoubleDot segment then { stack with segments := ending ++ pop stack.segments }
    else if isSingleDot segment then { stack with segments := ending ++ stack.segments }
    else
      match if atBottom then drive? segment else none with
      | some drive => ⟨[drive], true⟩
      | none => { stack with segments := segment :: stack.segments }

def Stack.pushAll (stack : Stack) (kind : SchemeKind) : List (List Char) → Stack
  | [] => stack
  | [s] => stack.push kind s true
  | s :: rest => (stack.push kind s false).pushAll kind rest

def split (kind : SchemeKind) : List Char → List (List Char)
  | [] => [[]]
  | c :: cs =>
    if kind.isSeparator c then [] :: split kind cs
    else
      match split kind cs with
      | [] => [[c]]
      | s :: rest => (c :: s) :: rest

def endsPath (c : Char) : Bool := c == '?' || c == '#'

structure SegmentPath where
  segments : List (List Char)
  hasDrive : Bool

/-- Reads a path, given the text after its first slash. A path of files has no empty segments at its
start. -/
def readPath (kind : SchemeKind) (text : List Char) : SegmentPath :=
  let parts := split kind (text.takeWhile fun c => !endsPath c)
  let stack := Stack.pushAll ⟨[], false⟩ kind parts
  let all := stack.segments.reverse
  let kept := if kind == .file then all.dropWhile List.isEmpty else all
  ⟨if kept.isEmpty then [[]] else kept, stack.hasDrive⟩

end Switchyard.Uri
