import Switchyard.Path

namespace Switchyard

inductive IgnorePiece where
  | literal (c : Char)
  | any
  | star
  /-- `**/` at the start: nothing, or anything that ends in a slash. -/
  | leading
  | trailing
  | between
  | oneOf (negated : Bool) (ranges : List (Char × Char))
  | choice (branches : List (List IgnorePiece))
  deriving Inhabited

namespace IgnorePattern

def isSlash (c : Char) : Bool := c == '/'

def upToBracket : List Char → List Char × Option (List Char)
  | [] => ([], none)
  | c :: cs =>
    if c == ']' then ([], some cs)
    else
      let (content, rest) := upToBracket cs
      (c :: content, rest)

/-- The content of a class and the text after it. The first character never closes a class. -/
def splitClass : List Char → List Char × Option (List Char)
  | [] => ([], none)
  | c :: cs =>
    let (content, rest) := upToBracket cs
    (c :: content, rest)

/-- The ranges of a class after those in `acc`, the last one first; `isOpen` says that a dash waits
for the end of the last range. None if a range is in the wrong order. -/
def classRanges? (acc : List (Char × Char)) (isOpen : Bool) :
    List Char → Option (List (Char × Char))
  | [] => some (if isOpen then ('-', '-') :: acc else acc).reverse
  | c :: cs =>
    match acc, isOpen with
    | (low, _) :: acc, true =>
      if c < low then none else classRanges? ((low, c) :: acc) false cs
    | (r :: acc), false =>
      if c == '-' then classRanges? (r :: acc) true cs
      else classRanges? ((c, c) :: r :: acc) false cs
    | [], _ => classRanges? [(c, c)] false cs

theorem upToBracket_rest {cs rest : List Char} (h : (upToBracket cs).2 = some rest) :
    rest.length < cs.length := by
  induction cs with
  | nil => simp [upToBracket] at h
  | cons c cs ih =>
    by_cases hc : c == ']'
    · simp [upToBracket, hc] at h
      simp [h]
    · simp [upToBracket, hc] at h
      have := ih h
      simp
      omega

theorem splitClass_rest {cs rest : List Char} (h : (splitClass cs).2 = some rest) :
    rest.length < cs.length := by
  cases cs with
  | nil => simp [splitClass] at h
  | cons c cs =>
    have := @upToBracket_rest cs rest (by simpa [splitClass] using h)
    simp
    omega

/-- The branches of the groups that are open, the innermost group first, and in it the last branch
first, with its last piece first. The outermost group has one branch. -/
abbrev OpenGroups := List (List (List IgnorePiece))

def addPiece (p : IgnorePiece) : OpenGroups → OpenGroups
  | (branch :: branches) :: groups => ((p :: branch) :: branches) :: groups
  | groups => groups

def currentBranch : OpenGroups → List IgnorePiece
  | (branch :: _) :: _ => branch
  | _ => []

def closeGroup? : OpenGroups → Option OpenGroups
  | group :: outer :: groups =>
    some (addPiece (.choice (group.reverse.map List.reverse)) (outer :: groups))
  | _ => none

def addBranch : OpenGroups → OpenGroups
  | group :: groups => ([] :: group) :: groups
  | [] => []

/-- What two stars after the character `previous` stand for, given the text after them; and whether
a slash after them belongs to them. -/
def doubleStar (previous : Option Char) (groups : OpenGroups) (rest : List Char) :
    OpenGroups × Bool :=
  let plain := addPiece .star (addPiece .star groups)
  let isNested := 1 < groups.length
  match currentBranch groups with
  | [] =>
    match rest with
    | [] => (addPiece .leading groups, false)
    | c :: _ => if isSlash c then (addPiece .leading groups, true) else (plain, false)
  | last :: _ =>
    let afterSeparator :=
      previous.any isSlash || (isNested && (previous == some ',' || previous == some '\x7b'))
    let join (p : IgnorePiece) : OpenGroups :=
      match groups with
      | ((_ :: branch) :: branches) :: outer =>
        let p :=
          match last with
          | .leading => .leading
          | .trailing => .trailing
          | _ => p
        ((p :: branch) :: branches) :: outer
      | groups => groups
    if !afterSeparator then (plain, false)
    else
      match rest with
      | [] => (join .trailing, false)
      | c :: _ =>
        if (c == ',' || c == '\x7d') && isNested then (join .trailing, false)
        else if isSlash c then (join .between, true)
        else (plain, false)

/-- Reads a pattern after the character `previous`. `classes` is false once a bracket without its
partner was found: from then on brackets stand for themselves. -/
def parseFrom? (previous : Option Char) (classes : Bool) (groups : OpenGroups) :
    List Char → Option (List IgnorePiece)
  | [] =>
    match groups with
    | [[branch]] => some branch.reverse
    | _ => none
  | '?' :: cs => parseFrom? (some '?') classes (addPiece .any groups) cs
  | '*' :: '*' :: cs =>
    let (groups, takesSlash) := doubleStar previous groups cs
    if takesSlash then parseFrom? (some '/') classes groups (cs.drop 1)
    else parseFrom? (some '*') classes groups cs
  | '*' :: cs => parseFrom? (some '*') classes (addPiece .star groups) cs
  | '\x7b' :: cs => parseFrom? (some '\x7b') classes ([[]] :: groups) cs
  | '\x7d' :: cs =>
    match closeGroup? groups with
    | some groups => parseFrom? (some '\x7d') classes groups cs
    | none => none
  | ',' :: cs =>
    if 1 < groups.length then parseFrom? (some ',') classes (addBranch groups) cs
    else parseFrom? (some ',') classes (addPiece (.literal ',') groups) cs
  | '\\' :: c :: cs => parseFrom? (some c) classes (addPiece (.literal c) groups) cs
  | ['\\'] => none
  | c :: cs =>
    if c == '[' && classes then
      let negated := cs.head?.any fun d => d == '!' || d == '^'
      let body := if negated then cs.drop 1 else cs
      match classRanges? [] false (splitClass body).1 with
      | none => none
      | some ranges =>
        match _h : (splitClass body).2 with
        | none => parseFrom? (some '[') false (addPiece (.literal '[') groups) cs
        | some rest => parseFrom? (some ']') classes (addPiece (.oneOf negated ranges) groups) rest
    else parseFrom? (some c) classes (addPiece (.literal c) groups) cs
termination_by cs => cs.length
decreasing_by
  all_goals simp
  all_goals try omega
  have := splitClass_rest _h
  have : body.length ≤ cs.length := by
    simp only [body]
    split
    · simp
    · simp
  omega

def parse? (pattern : List Char) : Option (List IgnorePiece) :=
  parseFrom? none true [[[]]] pattern

/-- Puts one byte that satisfies `f` before what `row` matches. A row says for each suffix of the
text, the longest first, whether it is matched. -/
def oneByte (f : UInt8 → Bool) : List UInt8 → List Bool → List Bool
  | b :: bs, _ :: row => (f b && row.headD false) :: oneByte f bs row
  | _, _ => [false]

def manyBytes (f : UInt8 → Bool) : List UInt8 → List Bool → List Bool
  | b :: bs, m :: row =>
    let rest := manyBytes f bs row
    (m || (f b && rest.headD false)) :: rest
  | _, row => row

def eitherRow (r s : List Bool) : List Bool := List.zipWith (· || ·) r s

/-- Whether a byte is in a class. The ends of a range are spelled in UTF-8, and only the last byte
of its first end and the first byte of its last end span a range. -/
def inClass (ranges : List (Char × Char)) (b : UInt8) : Bool :=
  ranges.any fun (low, high) =>
    let lows := String.utf8EncodeChar low
    let highs := String.utf8EncodeChar high
    if low == high then lows.contains b
    else
      lows.dropLast.contains b || highs.tail.contains b
        || (lows.getLastD 0 ≤ b && b ≤ highs.headD 0)

def endRow (text : List UInt8) : List Bool :=
  text.map (fun _ => false) ++ [true]

def slashRow (text : List UInt8) (row : List Bool) : List Bool :=
  oneByte (· == Path.slash) text row

def anythingRow (text : List UInt8) (row : List Bool) : List Bool :=
  manyBytes (fun _ => true) text row

mutual

def pieceRow (text : List UInt8) (row : List Bool) : IgnorePiece → List Bool
  | .literal c => (String.utf8EncodeChar c).foldr (fun b row => oneByte (· == b) text row) row
  | .any => oneByte (· != Path.slash) text row
  | .star => manyBytes (· != Path.slash) text row
  | .leading => eitherRow row (anythingRow text (slashRow text row))
  | .trailing => slashRow text (anythingRow text row)
  | .between =>
    let row := slashRow text row
    eitherRow row (slashRow text (anythingRow text row))
  | .oneOf negated ranges => oneByte (fun b => inClass ranges b != negated) text row
  | .choice branches => (choiceRow text row branches).getD row

def choiceRow (text : List UInt8) (row : List Bool) : List (List IgnorePiece) → Option (List Bool)
  | [] => none
  | branch :: branches =>
    let others := choiceRow text row branches
    if isBlank branch then others
    else
      let this := piecesRow text row branch
      some (others.elim this (eitherRow this))

def piecesRow (text : List UInt8) (row : List Bool) : List IgnorePiece → List Bool
  | [] => row
  | p :: ps => pieceRow text (piecesRow text row ps) p

/-- Whether pieces are empty, or consist of groups without anything in them. -/
def isBlank : List IgnorePiece → Bool
  | [] => true
  | .choice branches :: ps => areBlank branches && isBlank ps
  | _ :: _ => false

def areBlank : List (List IgnorePiece) → Bool
  | [] => true
  | branch :: branches => isBlank branch && areBlank branches

end

def isLiteral (pieces : List IgnorePiece) : Bool :=
  pieces.all fun
    | .literal _ => true
    | _ => false

def literalTail (pieces : List IgnorePiece) : List Char :=
  let reversed := pieces.reverse.map fun
    | .literal c => some c
    | _ => none
  (reversed.takeWhile Option.isSome).filterMap id

/-- Whether the pieces fix the last name of a path by a whole name or by its extension. Such
patterns look at the name alone, and `..` is no name. -/
def looksAtName (pieces : List IgnorePiece) : Bool :=
  match pieces with
  | .leading :: rest =>
    if isLiteral rest then !rest.isEmpty && !(literalTail rest).contains '/' else hasExtension rest
  | _ => !isLiteral pieces && hasExtension pieces
where
  /-- Whether the characters at the end reach back to a dot without a slash on the way. -/
  hasExtension (pieces : List IgnorePiece) : Bool :=
    let tail := literalTail pieces
    match tail.find? fun c => c == '.' || c == '/' with
    | some '.' => true
    | _ => false

def endsInUp (text : List UInt8) : Bool :=
  text == [Path.dot, Path.dot] || [Path.slash, Path.dot, Path.dot].isSuffixOf text

def isMatch (pieces : List IgnorePiece) (text : List UInt8) : Bool :=
  match pieces with
  | [.leading] => true
  | _ =>
    !(looksAtName pieces && endsInUp text)
      && (piecesRow text (endRow text) pieces).headD false

end IgnorePattern
end Switchyard
