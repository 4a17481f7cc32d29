import Switchyard.Number.Natural
import Switchyard.Watch.Pattern

namespace Switchyard.IgnorePattern

def classSize (ranges : List (Char × Char)) : Nat :=
  Natural.total (ranges.map fun (low, high) =>
    if low == high then low.utf8Size else low.utf8Size + high.utf8Size - 1)

def pieceSize : IgnorePiece → Nat
  | .literal c => c.utf8Size
  | .trailing => 2
  | .choice branches => if areBlank branches then 0 else 1
  | _ => 1

mutual

/-- How deep a piece nests: repetitions, classes, groups and what is in them. -/
def pieceNesting : IgnorePiece → Nat
  | .literal _ => 0
  | .any | .trailing => 1
  | .star => 2
  | .leading | .between => 4
  | .oneOf _ ranges => if classSize ranges == 1 then 1 else 2
  | .choice branches =>
    match branchesNesting branches with
    | [] => 0
    | [n] => n + 1
    | ns => ns.foldl max 0 + 2

def branchesNesting : List (List IgnorePiece) → List Nat
  | [] => []
  | branch :: branches =>
    if isBlank branch then branchesNesting branches
    else
      (if 1 < Natural.total (branch.map pieceSize) then piecesNesting branch + 1
        else piecesNesting branch)
        :: branchesNesting branches

def piecesNesting : List IgnorePiece → Nat
  | [] => 0
  | p :: ps => max (pieceNesting p) (piecesNesting ps)

end

def nesting (pieces : List IgnorePiece) : Nat := piecesNesting pieces + 1

def maxNesting : Nat := 250

/-- Whether a pattern is decided by comparing a text with a path, its beginning, its end, its last
name or its extension. -/
def isCompared : List IgnorePiece → Bool
  | .leading :: .star :: .literal '.' :: rest =>
    isLiteral rest && !(literalTail rest).contains '.' && !(literalTail rest).contains '/'
  | .leading :: rest => !rest.isEmpty && isLiteral rest
  | pieces =>
    match pieces.getLast? with
    | some .trailing => isLiteral pieces.dropLast
    | _ => isLiteral pieces

def byteRanges (low high : Char) : List (Nat × Nat) :=
  let lows := (String.utf8EncodeChar low).map UInt8.toNat
  let highs := (String.utf8EncodeChar high).map UInt8.toNat
  if low == high then lows.map fun b => (b, b)
  else
    (lows.dropLast ++ highs.tail).map (fun b => (b, b)) ++ [(lows.getLastD 0, highs.headD 0)]

def stateRoom : Nat := 32

def runCount (ranges : List (Nat × Nat)) : Nat :=
  let has (b : Nat) : Bool := ranges.any fun r => r.1 ≤ b && b ≤ r.2
  ((ranges.map (·.1)).filter fun b => b == 0 || !has (b - 1)).eraseDups.length

/-- The room of a step over one byte of some, given by ranges, or one of the others. -/
def setRoom (negated : Bool) (ranges : List (Nat × Nat)) : Nat :=
  let has (b : Nat) : Bool := ranges.any fun r => r.1 ≤ b && b ≤ r.2
  let runs := runCount ranges
  let isSingle := ranges.head?.any fun r => r.1 == r.2 && ranges.all (· == r)
  if negated then
    2 * stateRoom + 8 * (runs + 1 - (if has 0 then 1 else 0) - if has 255 then 1 else 0)
  else if isSingle then stateRoom
  else 2 * stateRoom + 8 * runs

def singleBytes? : List IgnorePiece → Option (List (Nat × Nat))
  | [.literal c] => if c.toNat < 0x80 then some [(c.toNat, c.toNat)] else none
  | [.oneOf false ranges] => some (ranges.flatMap fun (low, high) => byteRanges low high)
  | _ => none

def repetitionRoom (runs : Nat) : Nat := 3 * stateRoom + 8 + 8 * runs

def choiceRoom (branches : List (List IgnorePiece)) (rooms : List Nat) : Nat :=
  match branches.mapM singleBytes? with
  | some sets => 2 * stateRoom + setRoom false sets.flatten
  | none =>
    if rooms.length == 1 then 2 * stateRoom + Natural.total rooms
    else if branches.all isLiteral then 3 * stateRoom + Natural.total rooms
    else 4 * stateRoom + 4 * rooms.length + Natural.total rooms

mutual

def pieceRoom : IgnorePiece → Nat
  | .literal c => stateRoom * c.utf8Size
  | .any => 2 * stateRoom + 16
  | .star => repetitionRoom 2
  | .leading => 6 * stateRoom + 16 + repetitionRoom 1
  | .trailing => stateRoom + repetitionRoom 1
  | .between => 5 * stateRoom + 8 + repetitionRoom 1
  | .oneOf negated ranges =>
    setRoom negated (ranges.flatMap fun (low, high) => byteRanges low high)
  | .choice branches =>
    if areBlank branches then 0
    else choiceRoom (branches.filter fun b => !isBlank b) (branchesRooms branches)

def branchesRooms : List (List IgnorePiece) → List Nat
  | [] => []
  | branch :: branches =>
    if isBlank branch then branchesRooms branches
    else piecesRoom branch :: branchesRooms branches

def piecesRoom : List IgnorePiece → Nat
  | [] => 0
  | p :: ps => pieceRoom p + piecesRoom ps

end

/-- The room of an automaton for one pattern, which is tried at the start of a path and must end at
its end. -/
def room (pieces : List IgnorePiece) : Nat := 5 * stateRoom + piecesRoom pieces

def maxRoom : Nat := 10485760

def sharedRoom (patterns : List (List IgnorePiece)) : Nat :=
  let joint := if patterns.length ≤ 1 then 0 else 2 * stateRoom + 4 * patterns.length
  stateRoom + joint + Natural.total (patterns.map room)

def areUsable (patterns : List (List IgnorePiece)) : Bool :=
  let (named, free) := (patterns.filter fun p => !isCompared p).partition looksAtName
  patterns.all (fun p => nesting p ≤ maxNesting)
    && named.all (fun p => sharedRoom [p] ≤ maxRoom) && sharedRoom free ≤ maxRoom

end Switchyard.IgnorePattern
