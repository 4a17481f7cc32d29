namespace Switchyard

inductive GlobPiece where
  /-- `**/`: nothing, or a text without line breaks and the slash after it. -/
  | directories
  | anything
  | segment
  | one
  | literal (c : Char)
  deriving DecidableEq, Inhabited

abbrev Glob := List GlobPiece

namespace Glob

def parse : List Char → Glob
  | '*' :: '*' :: '/' :: cs => .directories :: parse cs
  | '*' :: '*' :: cs => .anything :: parse cs
  | '*' :: cs => .segment :: parse cs
  | '?' :: cs => .one :: parse cs
  | c :: cs => .literal c :: parse cs
  | [] => []

def ofString (s : String) : Glob := parse s.toList

/-- Prepends `f` of the first character and of the match of what follows it. -/
def oneChar (f : Char → Bool) : List Char → List Bool → List Bool
  | c :: cs, _ :: ms => (f c && ms.headD false) :: oneChar f cs ms
  | _, _ => [false]

def manyChars (f : Char → Bool) : List Char → List Bool → List Bool
  | c :: cs, m :: ms =>
    let rest := manyChars f cs ms
    (m || (f c && rest.headD false)) :: rest
  | _, ms => ms

def throughSlash : List Char → List Bool → List Bool
  | c :: cs, _ :: ms =>
    let rest := throughSlash cs ms
    (c != '\n' && ((c == '/' && ms.headD false) || rest.headD false)) :: rest
  | _, _ => [false]

/-- For each suffix of the text, the longest first, whether the piece and then what `ms` stands for
match it. -/
def pieceMatches (text : List Char) (ms : List Bool) : GlobPiece → List Bool
  | .directories => List.zipWith (· || ·) ms (throughSlash text ms)
  | .anything => manyChars (· != '\n') text ms
  | .segment => manyChars (· != '/') text ms
  | .one => oneChar (· != '/') text ms
  | .literal c => oneChar (· == c) text ms

def endMatches : List Char → List Bool
  | [] => [true]
  | _ :: cs => false :: endMatches cs

def suffixMatches (text : List Char) : Glob → List Bool
  | [] => endMatches text
  | p :: ps => pieceMatches text (suffixMatches text ps) p

def isMatch (g : Glob) (text : List Char) : Bool :=
  (suffixMatches text g).headD false

end Glob
end Switchyard
