import Switchyard.Machine.FileTree
import Switchyard.Text.Blank
import Switchyard.Text.Lines
import Switchyard.Watch.Limit

namespace Switchyard

structure IgnoreRule where
  pattern : List IgnorePiece
  keeps : Bool
  onlyDirectories : Bool
  deriving Inhabited

namespace IgnoreRule

def trimLine (line : List Char) : List Char :=
  if ['\\', ' '].isSuffixOf line then line else Text.trimRight line

/-- Takes the marks at the start off a line: whether it keeps, whether it is anchored at the root of
the tree, and its text. -/
def takeMarks : List Char → Bool × Bool × List Char
  | '\\' :: '!' :: cs => (false, false, '!' :: cs)
  | '\\' :: '#' :: cs => (false, false, '#' :: cs)
  | '!' :: '/' :: cs => (true, true, cs)
  | '!' :: cs => (true, false, cs)
  | '/' :: cs => (false, true, cs)
  | cs => (false, false, cs)

def takeSlash (text : List Char) : Bool × List Char :=
  match text.reverse with
  | '/' :: '\\' :: cs => (true, cs.reverse)
  | '/' :: cs => (true, cs.reverse)
  | _ => (false, text)

/-- The pattern that a text stands for: one without a slash may match in any directory, and one for
everything below a directory does not match the directory. -/
def patternText (anchored : Bool) (text : List Char) : List Char :=
  let text :=
    if !anchored && !text.contains '/' && text != ['*', '*'] then '*' :: '*' :: '/' :: text
    else text
  if ['/', '*', '*'].isSuffixOf text then text ++ ['/', '*'] else text

/-- The rule of a line. A comment, a blank line and a malformed pattern are none. -/
def ofLine? (line : List Char) : Option IgnoreRule :=
  if line.head? == some '#' then none
  else
    let line := trimLine line
    if line.isEmpty then none
    else
      let (keeps, anchored, text) := takeMarks line
      let (onlyDirectories, text) := takeSlash text
      (IgnorePattern.parse? (patternText anchored text)).map fun pattern =>
        { pattern, keeps, onlyDirectories }

def isMatch (r : IgnoreRule) (path : List UInt8) (isDirectory : Bool) : Bool :=
  (isDirectory || !r.onlyDirectories) && IgnorePattern.isMatch r.pattern path

end IgnoreRule

abbrev IgnoreFile := List IgnoreRule

namespace IgnoreFile

def texts : List (List UInt8) → List (List Char)
  | [] => []
  | l :: ls =>
    match Text.Utf8.decode? l with
    | some cs => cs :: texts ls
    | none => []

def dropMarks (cs : List Char) : List Char := cs.dropWhile (· == '\uFEFF')

def ofTexts : List (List Char) → IgnoreFile
  | [] => []
  | first :: rest => (dropMarks first :: rest).filterMap IgnoreRule.ofLine?

def load (files : FileTree) (path : Path) : IgnoreFile :=
  match files.readBytes path with
  | .ok bytes => ofTexts (texts (Text.lines bytes))
  | .error _ => []

def isUsable (rules : IgnoreFile) : Bool :=
  IgnorePattern.areUsable (rules.map IgnoreRule.pattern)

def decide? (rules : IgnoreFile) (path : List UInt8) (isDirectory : Bool) : Option Bool :=
  (rules.reverse.find? fun r => r.isMatch path isDirectory).map fun r => !r.keeps

/-- Drops empty segments and dots, which are no components, from the front of a list of segments in
reverse; a dot that comes first in the path is one. -/
def dropNoComponents : List (List UInt8) → List (List UInt8)
  | [] => []
  | [s] => if s.isEmpty then [] else [s]
  | s :: rest => if s.isEmpty || s == [Path.dot] then dropNoComponents rest else s :: rest

/-- The directories above a path, the nearest first, each by its segments in reverse. -/
def above : List (List UInt8) → List (List (List UInt8))
  | [] => []
  | s :: rest =>
    if s.isEmpty || (s == [Path.dot] && !rest.isEmpty) then above rest
    else dropNoComponents rest :: above rest

def joined (segments : List (List UInt8)) : List UInt8 :=
  [Path.slash].intercalate segments.reverse

def ignores (rules : IgnoreFile) (path : List UInt8) : Bool :=
  let parents := (above (Path.segments path).reverse).map joined
  match decide? rules path false with
  | some answer => answer
  | none => (parents.findSome? fun p => decide? rules p true).getD false

end IgnoreFile
end Switchyard
