import Switchyard.Document.Selector
import Switchyard.Watch.Limit

namespace Switchyard
namespace Glob

open IgnorePattern (stateRoom maxRoom)

inductive Direction where
  | forward
  | backward
  deriving DecidableEq

/-- The room of a step over a character that is any but one of a byte. It goes byte by byte:
forwards the ten kinds of first bytes share the steps that end a character, backwards none is
shared. -/
def otherRoom : Direction → Nat
  | .forward => 9 * stateRoom + 8 * 17
  | .backward => 30 * stateRoom + 4 * 10

def othersRoom (direction : Direction) : Nat := stateRoom + 8 + otherRoom direction

def pieceRoom (direction : Direction) : GlobPiece → Nat
  | .directories => 3 * stateRoom + 8 + othersRoom direction
  | .anything | .segment => othersRoom direction
  | .one => otherRoom direction
  | .literal c => stateRoom * c.utf8Size

/-- The room of what stands around the pieces: both ends of the text, and the match; forwards also
where the match begins and ends. -/
def frameRoom : Direction → Nat
  | .forward => 6 * stateRoom
  | .backward => 4 * stateRoom

def room (direction : Direction) (g : Glob) : Nat :=
  frameRoom direction + Natural.total (g.map (pieceRoom direction))

def fits (g : Glob) : Bool :=
  room .forward g ≤ maxRoom && room .backward g ≤ maxRoom

/-- The glob of a pattern, unless it takes too much room: then the program stops. -/
def compile? (pattern : String) : Option Glob :=
  let g := ofString pattern
  if g.fits then some g else none

end Glob

namespace DocumentSelector

def compiles (selector : DocumentSelector) : Bool :=
  selector.all fun
    | .ofLanguage _ => true
    | .conditions _ pattern _ => pattern.all fun p => (Glob.compile? p).isSome

/-- Whether the selector accepts a document. Where a glob cannot be built there is no answer: the
program stops. -/
def judge? (selector : DocumentSelector) (file root : Path) : Option Bool :=
  if selector.compiles then some (selector.accepts file root) else none

end DocumentSelector
end Switchyard
