import Switchyard.Json.Reader
import Switchyard.Toml.Basic

namespace Switchyard.Toml

/-- The characters of a text of digits in which single underscores stand between digits. -/
def digits? (isDigit : Char → Bool) : List Char → Option (List Char)
  | [] => none
  | [c] => if isDigit c then some [c] else none
  | c :: '_' :: d :: cs =>
    if isDigit c && isDigit d then (digits? isDigit (d :: cs)).map (c :: ·) else none
  | c :: cs => if isDigit c then (digits? isDigit cs).map (c :: ·) else none

def isBinary (c : Char) : Bool := c == '0' || c == '1'

def isOctal (c : Char) : Bool := '0' ≤ c && c ≤ '7'

def isHexadecimal (c : Char) : Bool := (Json.hexValue? c).isSome

def valueOf (base : Nat) (ds : List Char) : Nat :=
  ds.foldl (fun n c => n * base + (Json.hexValue? c).getD 0) 0

def decimal? (cs : List Char) : Option (List Char) :=
  match digits? Char.isDigit cs with
  | some ('0' :: _ :: _) => none
  | ds => ds

def takeSign : List Char → Bool × List Char
  | '+' :: cs => (false, cs)
  | '-' :: cs => (true, cs)
  | cs => (false, cs)

def integer? (n : Int) : Option Toml :=
  if -Nat.pow 2 127 ≤ n && n < Nat.pow 2 128 then some (.integer n) else none

def readInteger? : List Char → Option Toml
  | '0' :: 'x' :: cs => (digits? isHexadecimal cs).bind fun ds => integer? (valueOf 16 ds)
  | '0' :: 'o' :: cs => (digits? isOctal cs).bind fun ds => integer? (valueOf 8 ds)
  | '0' :: 'b' :: cs => (digits? isBinary cs).bind fun ds => integer? (valueOf 2 ds)
  | cs =>
    let (negative, cs) := takeSign cs
    (decimal? cs).bind fun ds =>
      let n : Int := valueOf 10 ds
      integer? (if negative then -n else n)

def isFinite (n : Nat) (exponent : Int) : Bool :=
  let size : Int := (Nat.toDigits 10 n).length + exponent
  let bound := Nat.pow 2 1024 - Nat.pow 2 970
  if n == 0 || size < -400 then true
  else if 400 < size then false
  else if 0 ≤ exponent then n * Nat.pow 10 exponent.toNat < bound
  else n < bound * Nat.pow 10 (-exponent).toNat

def exponent? (cs : List Char) : Option Int :=
  let (negative, cs) := takeSign cs
  (digits? Char.isDigit cs).map fun ds =>
    let n : Int := valueOf 10 ds
    if negative then -n else n

def isExponentMark (c : Char) : Bool := c == 'e' || c == 'E'

def readFloat? (cs : List Char) : Option Toml :=
  let cs := (takeSign cs).2
  let mantissa := cs.takeWhile fun c => !isExponentMark c
  let tail := cs.dropWhile fun c => !isExponentMark c
  let whole := mantissa.takeWhile (· != '.')
  let fraction := mantissa.dropWhile (· != '.')
  if tail.isEmpty && fraction.isEmpty then none
  else do
    let whole ← decimal? whole
    let fraction ← if fraction.isEmpty then some [] else digits? Char.isDigit (fraction.drop 1)
    let exponent ← if tail.isEmpty then some 0 else exponent? (tail.drop 1)
    if isFinite (valueOf 10 (whole ++ fraction)) (exponent - fraction.length) then some .float
    else none

def readSpecialFloat? (cs : List Char) : Option Toml :=
  let word := (takeSign cs).2
  if word == ['i', 'n', 'f'] || word == ['n', 'a', 'n'] then some .float else none

def readDigits? : Nat → Nat → List Char → Option (Nat × List Char)
  | 0, n, cs => some (n, cs)
  | k + 1, n, c :: cs => if c.isDigit then readDigits? k (n * 10 + (c.toNat - 48)) cs else none
  | _ + 1, _, [] => none

def after? (c : Char) : List Char → Option (List Char)
  | d :: cs => if c == d then some cs else none
  | [] => none

def daysOfMonth (year month : Nat) : Nat :=
  if month == 2 then
    if year % 4 == 0 && (year % 100 != 0 || year % 400 == 0) then 29 else 28
  else if [4, 6, 9, 11].contains month then 30
  else 31

def readDate? (cs : List Char) : Option (List Char) := do
  let (year, cs) ← readDigits? 4 0 cs
  let cs ← after? '-' cs
  let (month, cs) ← readDigits? 2 0 cs
  let cs ← after? '-' cs
  let (day, cs) ← readDigits? 2 0 cs
  if 1 ≤ month && month ≤ 12 && 1 ≤ day && day ≤ daysOfMonth year month then some cs else none

def readFraction? : List Char → Option (List Char)
  | '.' :: c :: cs => if c.isDigit then some (cs.dropWhile Char.isDigit) else none
  | ['.'] => none
  | cs => some cs

def readTime? (cs : List Char) : Option (List Char) := do
  let (hour, cs) ← readDigits? 2 0 cs
  let cs ← after? ':' cs
  let (minute, cs) ← readDigits? 2 0 cs
  if 23 < hour || 59 < minute then none
  else
    match cs with
    | ':' :: cs => do
      let (second, cs) ← readDigits? 2 0 cs
      if 60 < second then none else readFraction? cs
    | cs => some cs

def isOffset : List Char → Bool
  | [] => true
  | [c] => c == 'z' || c == 'Z'
  | c :: cs =>
    let inRange : Option Bool := do
      let (hour, cs) ← readDigits? 2 0 cs
      let cs ← after? ':' cs
      let (minute, cs) ← readDigits? 2 0 cs
      return hour ≤ 23 && minute ≤ 59 && cs.isEmpty
    (c == '+' || c == '-') && inRange.getD false

def readDatetime? (cs : List Char) : Option Toml :=
  match readDate? cs with
  | some [] => some .datetime
  | some (c :: rest) =>
    if c == 't' || c == 'T' || c == ' ' then
      match readTime? rest with
      | some offset => if isOffset offset then some .datetime else none
      | none => none
    else none
  | none =>
    match readTime? cs with
    | some [] => some .datetime
    | _ => none

def readScalar? (cs : List Char) : Option Toml :=
  if cs == "true".toList then some (.boolean true)
  else if cs == "false".toList then some (.boolean false)
  else
    (readSpecialFloat? cs).or <| (readInteger? cs).or <| (readFloat? cs).or (readDatetime? cs)

end Switchyard.Toml
