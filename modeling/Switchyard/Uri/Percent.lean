import Switchyard.Path

namespace Switchyard.Uri

def upperHexDigit (n : Nat) : Char :=
  if n < 10 then Char.ofNat (48 + n) else Char.ofNat (55 + n)

def reserved : List Char :=
  [' ', '"', '<', '>', '\x60', '#', '?', '\x7b', '\x7d', '/', '%', '\\']

def mustEncode (b : UInt8) : Bool :=
  b < 0x20 || 0x7F ≤ b || reserved.contains (Char.ofNat b.toNat)

def encodeByte (b : UInt8) : List Char :=
  if mustEncode b then ['%', upperHexDigit (b.toNat / 16), upperHexDigit (b.toNat % 16)]
  else [Char.ofNat b.toNat]

def encode (bytes : List UInt8) : List Char :=
  bytes.flatMap encodeByte

def hexValue? (b : UInt8) : Option UInt8 :=
  if 48 ≤ b && b ≤ 57 then some (b - 48)
  else if 65 ≤ b && b ≤ 70 then some (b - 55)
  else if 97 ≤ b && b ≤ 102 then some (b - 87)
  else none

def triple? (percent high low : UInt8) : Option UInt8 :=
  if percent == 37 then
    match hexValue? high, hexValue? low with
    | some h, some l => some (16 * h + l)
    | _, _ => none
  else none

/-- Reads triples as bytes; a percent sign that starts none stands for itself. -/
def decodeBytes : List UInt8 → List UInt8
  | a :: b :: c :: rest =>
    match triple? a b c with
    | some x => x :: decodeBytes rest
    | none => a :: decodeBytes (b :: c :: rest)
  | short => short

def decode (cs : List Char) : List UInt8 :=
  decodeBytes (Text.Utf8.encode cs)

end Switchyard.Uri
