namespace Switchyard.Uri.Domain

def digitValue? (c : Char) : Option Nat :=
  if 'a' ≤ c && c ≤ 'z' then some (c.toNat - 97)
  else if c.isDigit then some (c.toNat - 22)
  else none

/-- The value from which a digit at a place is not the last of its number. -/
def threshold (place bias : Nat) : Nat :=
  max 1 (min 26 (36 * (place + 1) - bias))

def scaleDown (n : Nat) : Nat × Nat :=
  if 455 < n then
    let (rest, places) := scaleDown (n / 35)
    (rest, places + 1)
  else (n, 0)
termination_by n
decreasing_by omega

def nextBias (number count : Nat) (isFirst : Bool) : Nat :=
  let n := if isFirst then number / 700 else number / 2
  let (rest, places) := scaleDown (n + n / count)
  36 * places + 36 * rest / (rest + 38)

structure Decoding where
  text : List Char
  /-- The code point of the last character that was put in. -/
  code : Nat
  place : Nat
  bias : Nat

def numberLimit : Nat := 4294967296

/-- Puts in the next character. Its distance is counted in places of the text, from the first place
of the code point of the last character on: each time round the text is one code point more. -/
def Decoding.insert? (d : Decoding) (distance : Nat) : Option Decoding :=
  let count := d.text.length + 1
  let code := d.code + distance / count
  let place := distance % count
  if code.isValidChar then
    some {
      text := d.text.insertIdx place (Char.ofNat code)
      code
      place := place + 1
      bias := nextBias (distance - d.place) count (d.place == 0) }
  else none

/-- Reads digits. The number at hand has brought the distance to `distance`; its next digit is at
place `digit` and weighs `weight`. -/
def Decoding.read? (d : Decoding) (distance weight digit : Nat) : List Char → Option (List Char)
  | [] => if digit == 0 then some d.text else none
  | c :: cs =>
    match digitValue? c with
    | none => none
    | some value =>
      let distance := distance + value * weight
      let t := threshold digit d.bias
      if numberLimit ≤ distance then none
      else if value < t then
        match d.insert? distance with
        | some d => d.read? d.place 1 0 cs
        | none => none
      else
        let weight := weight * (36 - t)
        if numberLimit ≤ weight then none else d.read? distance weight (digit + 1) cs

/-- The text of a label without its prefix, of which at least one character is not ASCII. -/
def decodeLabel? (cs : List Char) : Option (List Char) :=
  let numbers := (cs.reverse.takeWhile (· != '-')).reverse
  let ascii := cs.take (cs.length - numbers.length - 1)
  if numbers.isEmpty || cs.head? == some '-' && ascii.isEmpty then none
  else Decoding.read? ⟨ascii, 0x80, 0, 72⟩ 0 1 0 numbers

end Switchyard.Uri.Domain
