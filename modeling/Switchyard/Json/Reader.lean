import Switchyard.Json.Basic

namespace Switchyard
namespace Json

def maxDepth : Nat := 127

def isBlank (c : Char) : Bool :=
  c == ' ' || c == '\n' || c == '\t' || c == '\r'

def skipBlanks : List Char → List Char
  | [] => []
  | c :: cs => if isBlank c then skipBlanks cs else c :: cs

def afterWord? : List Char → List Char → Option (List Char)
  | [], cs => some cs
  | w :: ws, c :: cs => if w == c then afterWord? ws cs else none
  | _ :: _, [] => none

def hexValue? (c : Char) : Option Nat :=
  if '0' ≤ c && c ≤ '9' then some (c.toNat - 48)
  else if 'a' ≤ c && c ≤ 'f' then some (c.toNat - 87)
  else if 'A' ≤ c && c ≤ 'F' then some (c.toNat - 55)
  else none

def hex4? (a b c d : Char) : Option Nat := do
  let a ← hexValue? a
  let b ← hexValue? b
  let c ← hexValue? c
  let d ← hexValue? d
  return ((a * 16 + b) * 16 + c) * 16 + d

def simpleEscape? (c : Char) : Option Char :=
  match c with
  | '"' => some '"'
  | '\\' => some '\\'
  | '/' => some '/'
  | 'b' => some '\x08'
  | 'f' => some '\x0c'
  | 'n' => some '\n'
  | 'r' => some '\r'
  | 't' => some '\t'
  | _ => none

def pair (high low : Nat) : Char :=
  Char.ofNat (0x10000 + (high - 0xD800) * 0x400 + (low - 0xDC00))

/-- Reads a string whose opening quote is past; `acc` holds its characters so far, in reverse. -/
def readString? (acc : List Char) : List Char → Option (String × List Char)
  | [] => none
  | '"' :: cs => some (String.ofList acc.reverse, cs)
  | '\\' :: 'u' :: a :: b :: c :: d :: cs =>
    match hex4? a b c d with
    | none => none
    | some n =>
      if n < 0xD800 || 0xDFFF < n then readString? (Char.ofNat n :: acc) cs
      else if 0xDBFF < n then none
      else
        match cs with
        | '\\' :: 'u' :: e :: f :: g :: h :: cs =>
          match hex4? e f g h with
          | none => none
          | some m =>
            if 0xDC00 ≤ m && m ≤ 0xDFFF then readString? (pair n m :: acc) cs else none
        | _ => none
  | '\\' :: c :: cs =>
    match simpleEscape? c with
    | some e => readString? (e :: acc) cs
    | none => none
  | c :: cs => if c.toNat < 0x20 || c == '\\' then none else readString? (c :: acc) cs

def digits (cs : List Char) : List Char × List Char :=
  (cs.takeWhile Char.isDigit, cs.dropWhile Char.isDigit)

/-- Adds digits to a significand of 64 bits. Once one no longer fits, it and all further ones are
left out: the count of those taken, and of those left out, is given too. -/
def significand (start : Nat) : List Char → Nat × Nat × Nat
  | [] => (start, 0, 0)
  | c :: cs =>
    let next := start * 10 + (c.toNat - 48)
    if next < Nat.pow 2 64 then
      let (n, taken, left) := significand next cs
      (n, taken + 1, left)
    else (start, 0, cs.length + 1)

/-- Divides by 10^308 until the exponent is in the range of the powers of ten. -/
def scaleDown : Nat → Binary64 → Int → Option Binary64
  | 0, _, _ => some .zero
  | fuel + 1, x, exponent =>
    if exponent.natAbs ≤ 308 then
      match Binary64.ofRatio? (Nat.pow 10 exponent.natAbs) 1 with
      | some p => if exponent ≥ 0 then x.mul? p else x.div? p
      | none => none
    else if x.significand == 0 then some x
    else if exponent ≥ 0 then none
    else
      match Binary64.ofRatio? (Nat.pow 10 308) 1 with
      | some p =>
        match x.div? p with
        | some y => scaleDown fuel y (exponent + 308)
        | none => none
      | none => none

/-- The float `n * 10^exponent`: the integer is rounded first, then scaled by a rounded power of
ten. None if it is too big. -/
def scaled? (negative : Bool) (n : Nat) (exponent : Int) : Option Binary64 :=
  match Binary64.ofRatio? n 1 with
  | none => none
  | some x =>
    -- each division takes 308 off the exponent, and four leave nothing of any integer of 64 bits
    match scaleDown 5 x exponent with
    | some y => some { y with negative := negative }
    | none => none

def exponentPart? : List Char → Option (Int × List Char)
  | cs =>
    let (negative, cs) :=
      match cs with
      | '+' :: r => (false, r)
      | '-' :: r => (true, r)
      | r => (false, r)
    let (ds, rest) := digits cs
    if ds.isEmpty then none
    else
      let n : Int := ds.foldl (fun acc c => acc * 10 + (c.toNat - 48 : Nat)) (0 : Int)
      some (if negative then -n else n, rest)

def readMagnitude? (negative : Bool) (cs : List Char) : Option (JsonNumber × List Char) :=
  let (whole, rest) := digits cs
  match whole with
  | [] => none
  | '0' :: _ :: _ => none
  | _ =>
    let (n, _, dropped) := significand 0 whole
    let finish (n : Nat) (exponent : Int) (rest : List Char) : Option (JsonNumber × List Char) :=
      match rest with
      | 'e' :: cs | 'E' :: cs =>
        match exponentPart? cs with
        | none => none
        | some (e, rest) => (scaled? negative n (exponent + e)).map fun x => (.float x, rest)
      | _ => (scaled? negative n exponent).map fun x => (.float x, rest)
    match rest with
    | '.' :: cs =>
      let (fraction, rest) := digits cs
      if fraction.isEmpty then none
      else
        let (n, taken, _) := significand n fraction
        finish n ((dropped : Int) - taken) rest
    | 'e' :: _ | 'E' :: _ => finish n dropped rest
    | _ =>
      if dropped != 0 then finish n dropped rest
      else if negative then
        if n == 0 || Nat.pow 2 63 < n then finish n 0 rest else some (.int (-n), rest)
      else some (.int n, rest)

def readNumber? : List Char → Option (JsonNumber × List Char)
  | '-' :: cs => readMagnitude? true cs
  | cs => readMagnitude? false cs

/-- Reads the items of an array up to its bracket; `acc` holds those before, in reverse. -/
def readItems? (value : List Char → Option (Json × List Char)) :
    Nat → List Json → List Char → Option (List Json × List Char)
  | 0, _, _ => none
  | fuel + 1, acc, cs =>
    match value cs with
    | none => none
    | some (j, rest) =>
      match skipBlanks rest with
      | ',' :: rest => readItems? value fuel (j :: acc) rest
      | ']' :: rest => some ((j :: acc).reverse, rest)
      | _ => none

def readMembers? (value : List Char → Option (Json × List Char)) :
    Nat → List (String × Json) → List Char → Option (List (String × Json) × List Char)
  | 0, _, _ => none
  | fuel + 1, acc, cs =>
    match skipBlanks cs with
    | '"' :: cs =>
      match readString? [] cs with
      | none => none
      | some (k, rest) =>
        match skipBlanks rest with
        | ':' :: rest =>
          match value rest with
          | none => none
          | some (j, rest) =>
            match skipBlanks rest with
            | ',' :: rest => readMembers? value fuel ((k, j) :: acc) rest
            | '\x7d' :: rest => some (((k, j) :: acc).reverse, rest)
            | _ => none
        | _ => none
    | _ => none

def readValue? : Nat → List Char → Option (Json × List Char)
  | depth, cs =>
    match skipBlanks cs with
    | 'n' :: rest => (afterWord? ['u', 'l', 'l'] rest).map fun r => (.null, r)
    | 't' :: rest => (afterWord? ['r', 'u', 'e'] rest).map fun r => (.bool true, r)
    | 'f' :: rest => (afterWord? ['a', 'l', 's', 'e'] rest).map fun r => (.bool false, r)
    | '"' :: rest => (readString? [] rest).map fun (s, r) => (.str s, r)
    | '[' :: rest =>
      match depth with
      | 0 => none
      | depth + 1 =>
        match skipBlanks rest with
        | ']' :: r => some (.arr [], r)
        | r => (readItems? (readValue? depth) (r.length + 1) [] r).map fun (xs, r) => (.arr xs, r)
    | '\x7b' :: rest =>
      match depth with
      | 0 => none
      | depth + 1 =>
        match skipBlanks rest with
        | '\x7d' :: r => some (.obj [], r)
        | r =>
          (readMembers? (readValue? depth) (r.length + 1) [] r).map fun (ms, r) => (ofMembers ms, r)
    | r => (readNumber? r).map fun (n, r) => (.num n, r)

def parse? (cs : List Char) : Option Json :=
  match readValue? maxDepth cs with
  | none => none
  | some (j, rest) => if (skipBlanks rest).isEmpty then some j else none

end Json
end Switchyard
