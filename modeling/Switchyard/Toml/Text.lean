import Switchyard.Json.Reader

namespace Switchyard.Toml

def isPlain (c : Char) : Bool :=
  c == '\t' || (0x20 ≤ c.toNat && c.toNat != 0x7F)

def isBlank (c : Char) : Bool := c == ' ' || c == '\t'

def skipBlanks (cs : List Char) : List Char := cs.dropWhile isBlank

def afterNewline? : List Char → Option (List Char)
  | '\n' :: cs => some cs
  | '\r' :: '\n' :: cs => some cs
  | _ => none

def charOfCode? (n : Nat) : Option Char :=
  if n < 0xD800 || (0xDFFF < n && n ≤ 0x10FFFF) then some (Char.ofNat n) else none

def readHex? : Nat → Nat → List Char → Option (Nat × List Char)
  | 0, n, cs => some (n, cs)
  | digits + 1, n, c :: cs =>
    match Json.hexValue? c with
    | some d => readHex? digits (n * 16 + d) cs
    | none => none
  | _ + 1, _, [] => none

def readEscape? : List Char → Option (Char × List Char)
  | 'b' :: cs => some ('\x08', cs)
  | 't' :: cs => some ('\t', cs)
  | 'n' :: cs => some ('\n', cs)
  | 'f' :: cs => some ('\x0c', cs)
  | 'r' :: cs => some ('\r', cs)
  | 'e' :: cs => some ('\x1b', cs)
  | '"' :: cs => some ('"', cs)
  | '\\' :: cs => some ('\\', cs)
  | c :: cs =>
    let digits := if c == 'x' then 2 else if c == 'u' then 4 else if c == 'U' then 8 else 0
    if digits == 0 then none
    else
      match readHex? digits 0 cs with
      | some (n, rest) => (charOfCode? n).map fun d => (d, rest)
      | none => none
  | [] => none

/-- Reads a basic text of one line; `acc` holds its characters so far, in reverse. -/
def readBasic? : Nat → List Char → List Char → Option (String × List Char)
  | 0, _, _ => none
  | fuel + 1, acc, cs =>
    match cs with
    | '"' :: cs => some (String.ofList acc.reverse, cs)
    | '\\' :: cs =>
      match readEscape? cs with
      | some (c, rest) => readBasic? fuel (c :: acc) rest
      | none => none
    | c :: cs => if isPlain c then readBasic? fuel (c :: acc) cs else none
    | [] => none

def readLiteral? (acc : List Char) : List Char → Option (String × List Char)
  | '\'' :: cs => some (String.ofList acc.reverse, cs)
  | c :: cs => if isPlain c then readLiteral? (c :: acc) cs else none
  | [] => none

/-- Ends a text of several lines at three quotes; up to two quotes before them belong to it. -/
def closeLong? (quote : Char) (acc : List Char) (cs : List Char) :
    Option (String × List Char) :=
  let run := (cs.takeWhile (· == quote)).length
  if 3 ≤ run && run ≤ 5 then
    some (String.ofList (List.replicate (run - 3) quote ++ acc).reverse, cs.drop run)
  else none

/-- Drops blanks and line ends; a carriage return must precede a line feed. -/
def skipLines : List Char → List Char
  | '\r' :: '\n' :: cs => skipLines cs
  | c :: cs => if isBlank c || c == '\n' then skipLines cs else c :: cs
  | [] => []

def readLongBasic? : Nat → List Char → List Char → Option (String × List Char)
  | 0, _, _ => none
  | fuel + 1, acc, cs =>
    match cs with
    | '"' :: '"' :: '"' :: _ => closeLong? '"' acc cs
    | '\\' :: rest =>
      match afterNewline? (skipBlanks rest) with
      | some rest => readLongBasic? fuel acc (skipLines rest)
      | none =>
        match readEscape? rest with
        | some (c, rest) => readLongBasic? fuel (c :: acc) rest
        | none => none
    | '\r' :: '\n' :: cs => readLongBasic? fuel ('\n' :: '\r' :: acc) cs
    | c :: cs =>
      if isPlain c || c == '\n' then readLongBasic? fuel (c :: acc) cs else none
    | [] => none

def readLongLiteral? (acc : List Char) : List Char → Option (String × List Char)
  | '\'' :: '\'' :: '\'' :: cs => closeLong? '\'' acc ('\'' :: '\'' :: '\'' :: cs)
  | '\r' :: '\n' :: cs => readLongLiteral? ('\n' :: '\r' :: acc) cs
  | c :: cs => if isPlain c || c == '\n' then readLongLiteral? (c :: acc) cs else none
  | [] => none

def dropFirstNewline (cs : List Char) : List Char := (afterNewline? cs).getD cs

def readText? (allowLong : Bool) (cs : List Char) : Option (String × List Char) :=
  match cs with
  | '"' :: '"' :: '"' :: cs' =>
    if allowLong then readLongBasic? (cs'.length + 1) [] (dropFirstNewline cs') else none
  | '\'' :: '\'' :: '\'' :: cs' =>
    if allowLong then readLongLiteral? [] (dropFirstNewline cs') else none
  | '"' :: cs' => readBasic? (cs'.length + 1) [] cs'
  | '\'' :: cs' => readLiteral? [] cs'
  | _ => none

end Switchyard.Toml
