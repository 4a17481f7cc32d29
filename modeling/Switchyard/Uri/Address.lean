import Switchyard.Uri.Domain

namespace Switchyard.Uri

def digitIn? (base : Nat) (c : Char) : Option Nat :=
  let value := if c.isDigit then c.toNat - 48 else c.toLower.toNat - 87
  if (c.isDigit || ('a' ≤ c.toLower && c.toLower ≤ 'f')) && value < base then some value else none

def numberIn? (base : Nat) (cs : List Char) : Option Nat :=
  cs.foldlM (fun n c => (digitIn? base c).map (n * base + ·)) 0

def addressNumber? : List Char → Option Nat
  | [] => none
  | '0' :: 'x' :: digits => numberIn? 16 digits
  | '0' :: c :: digits => numberIn? 8 (c :: digits)
  | digits => numberIn? 10 digits

/-- Whether a domain is to be read as an address: its last label is a number, or looks like one. -/
def Domain.isNumeric (domain : Domain) : Bool :=
  match domain.named.reverse with
  | last :: _ => !last.isEmpty && (last.all Char.isDigit || (addressNumber? last).isSome)
  | [] => false

def Domain.isAddress (domain : Domain) : Bool :=
  match domain.named.reverse.mapM addressNumber? with
  | some (last :: bytes) =>
    bytes.length ≤ 3 && bytes.all (· < 256) && last < Nat.pow 256 (4 - bytes.length)
  | _ => false

def isGroup (cs : List Char) : Bool :=
  !cs.isEmpty && cs.length ≤ 4 && (numberIn? 16 cs).isSome

def isByte (cs : List Char) : Bool :=
  !cs.isEmpty && (cs.length == 1 || cs.head? != some '0') && (numberIn? 10 cs).any (· < 256)

def splitColons : List Char → List (List Char)
  | [] => [[]]
  | c :: cs =>
    if c == ':' then [] :: splitColons cs
    else
      match splitColons cs with
      | [] => [[c]]
      | part :: rest => (c :: part) :: rest

/-- The number of groups that parts stand for, of which the last may be an address of four bytes. -/
def groupCount? : List (List Char) → Option Nat
  | [] => some 0
  | [last] =>
    let bytes := Domain.splitDots last
    if isGroup last then some 1
    else if bytes.length == 4 && bytes.all isByte then some 2
    else none
  | part :: rest => if isGroup part then (groupCount? rest).map (· + 1) else none

def splitZeros? : List Char → Option (List Char × List Char)
  | [] => none
  | ':' :: ':' :: rest => some ([], rest)
  | c :: cs => (splitZeros? cs).map fun (before, after) => (c :: before, after)

def sideParts (cs : List Char) : List (List Char) :=
  if cs.isEmpty then [] else splitColons cs

def isLongAddress (cs : List Char) : Bool :=
  match splitZeros? cs with
  | none => groupCount? (splitColons cs) == some 8
  | some (before, after) =>
    (sideParts before).all isGroup
      && (groupCount? (sideParts after)).any fun n => (sideParts before).length + n ≤ 7

end Switchyard.Uri
