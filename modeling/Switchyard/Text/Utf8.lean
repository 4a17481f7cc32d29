namespace Switchyard.Text.Utf8

def encode (cs : List Char) : List UInt8 :=
  cs.flatMap String.utf8EncodeChar

def ofString (s : String) : List UInt8 :=
  encode s.toList

def isTail (b : UInt8) : Bool :=
  0x80 ≤ b && b ≤ 0xBF

def char2 (a b : UInt8) : Char :=
  Char.ofNat ((a.toNat - 0xC0) * 64 + (b.toNat - 0x80))

def char3 (a b c : UInt8) : Char :=
  Char.ofNat ((a.toNat - 0xE0) * 4096 + (b.toNat - 0x80) * 64 + (c.toNat - 0x80))

def char4 (a b c d : UInt8) : Char :=
  Char.ofNat ((a.toNat - 0xF0) * 262144 + (b.toNat - 0x80) * 4096 + (c.toNat - 0x80) * 64
    + (d.toNat - 0x80))

/-- Whether `b` may follow the first byte `a` of a character of two bytes or more: no overlong
form, no surrogate, nothing above U+10FFFF. -/
def secondOk (a b : UInt8) : Bool :=
  if a < 0xC2 then false
  else if a == 0xE0 then 0xA0 ≤ b && b ≤ 0xBF
  else if a == 0xED then 0x80 ≤ b && b ≤ 0x9F
  else if a == 0xF0 then 0x90 ≤ b && b ≤ 0xBF
  else if a == 0xF4 then 0x80 ≤ b && b ≤ 0x8F
  else a < 0xF5 && isTail b

/-- Reads the rest of the bytes after the characters `acc`, which are in reverse. -/
def decodeOnto (acc : List Char) : List UInt8 → Option (List Char)
  | [] => some acc.reverse
  | a :: s =>
    if a < 0x80 then decodeOnto (Char.ofNat a.toNat :: acc) s
    else
      match s with
      | [] => none
      | b :: s =>
        if !secondOk a b then none
        else if a < 0xE0 then decodeOnto (char2 a b :: acc) s
        else
          match s with
          | [] => none
          | c :: s =>
            if !isTail c then none
            else if a < 0xF0 then decodeOnto (char3 a b c :: acc) s
            else
              match s with
              | [] => none
              | d :: s => if isTail d then decodeOnto (char4 a b c d :: acc) s else none

def decode? (bytes : List UInt8) : Option (List Char) :=
  decodeOnto [] bytes

def toString? (bytes : List UInt8) : Option String :=
  (decode? bytes).map String.ofList

/-- As `decodeOnto`, with U+FFFD for each longest ill-formed start of a character. -/
def decodeLossyOnto (acc : List Char) : List UInt8 → List Char
  | [] => acc.reverse
  | a :: s =>
    if a < 0x80 then decodeLossyOnto (Char.ofNat a.toNat :: acc) s
    else
      match s with
      | [] => ('\uFFFD' :: acc).reverse
      | b :: t =>
        if !secondOk a b then decodeLossyOnto ('\uFFFD' :: acc) (b :: t)
        else if a < 0xE0 then decodeLossyOnto (char2 a b :: acc) t
        else
          match t with
          | [] => ('\uFFFD' :: acc).reverse
          | c :: u =>
            if !isTail c then decodeLossyOnto ('\uFFFD' :: acc) (c :: u)
            else if a < 0xF0 then decodeLossyOnto (char3 a b c :: acc) u
            else
              match u with
              | [] => ('\uFFFD' :: acc).reverse
              | d :: v =>
                if isTail d then decodeLossyOnto (char4 a b c d :: acc) v
                else decodeLossyOnto ('\uFFFD' :: acc) (d :: v)

def decodeLossy (bytes : List UInt8) : String :=
  String.ofList (decodeLossyOnto [] bytes)

end Switchyard.Text.Utf8
