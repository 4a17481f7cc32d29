import Switchyard.Toml.Document
import Switchyard.Toml.Scalar
import Switchyard.Toml.Text

namespace Switchyard.Toml

/-- Arrays and inline tables may nest so deep, and keys may have so many parts. -/
def maxDepth : Nat := 80

/-- The text from the end of a comment on. A comment holds no control characters. -/
def afterComment? : List Char → Option (List Char)
  | '#' :: cs =>
    let rest := cs.dropWhile isPlain
    if rest.isEmpty || (afterNewline? rest).isSome then some rest else none
  | cs => some cs

/-- The text after the end of a line, with blanks and a comment before it. -/
def afterLine? (cs : List Char) : Option (List Char) :=
  match afterComment? (skipBlanks cs) with
  | some [] => some []
  | some rest => afterNewline? rest
  | none => none

def skipSpace? : Nat → List Char → Option (List Char)
  | 0, _ => none
  | fuel + 1, cs =>
    match skipBlanks cs with
    | '#' :: rest =>
      match afterComment? ('#' :: rest) with
      | some rest => skipSpace? fuel rest
      | none => none
    | rest =>
      match afterNewline? rest with
      | some rest => skipSpace? fuel rest
      | none => some rest

def space? (cs : List Char) : Option (List Char) := skipSpace? (cs.length + 1) cs

def isKeyChar (c : Char) : Bool :=
  c.isAlphanum || c == '_' || c == '-'

def readKeyPart? (cs : List Char) : Option (String × List Char) :=
  match cs with
  | '"' :: _ | '\'' :: _ => readText? false cs
  | _ =>
    let name := cs.takeWhile isKeyChar
    if name.isEmpty then none else some (String.ofList name, cs.dropWhile isKeyChar)

def readKey? : Nat → List Char → Option (List String × List Char)
  | 0, _ => none
  | fuel + 1, cs =>
    match readKeyPart? (skipBlanks cs) with
    | none => none
    | some (part, rest) =>
      match skipBlanks rest with
      | '.' :: rest => (readKey? fuel rest).map fun (parts, rest) => (part :: parts, rest)
      | rest => some ([part], rest)

def key? (cs : List Char) : Option (List String × List Char) :=
  (readKey? (cs.length + 1) cs).filter fun (parts, _) => parts.length ≤ maxDepth

def isScalarChar (c : Char) : Bool :=
  c.isAlphanum || c == '_' || c == '-' || c == '+' || c == '.' || c == ':'

def isDateShape (cs : List Char) : Bool :=
  cs.length == 10 && cs[4]? == some '-' && cs[7]? == some '-'

/-- Reads a value without quotes; one blank may stand between a date and a time. -/
def readUnquoted? (cs : List Char) : Option (Toml × List Char) :=
  let word := cs.takeWhile isScalarChar
  let rest := cs.dropWhile isScalarChar
  match rest with
  | ' ' :: c :: tail =>
    if isDateShape word && c.isDigit then
      let time := (c :: tail).takeWhile isScalarChar
      (readScalar? (word ++ ' ' :: time)).map fun v => (v, (c :: tail).dropWhile isScalarChar)
    else (readScalar? word).map fun v => (v, rest)
  | _ => (readScalar? word).map fun v => (v, rest)

def readItems? (value : List Char → Option (Toml × List Char)) :
    Nat → List Toml → List Char → Option (List Toml × List Char)
  | 0, _, _ => none
  | fuel + 1, acc, cs =>
    match space? cs with
    | none => none
    | some (']' :: rest) => some (acc.reverse, rest)
    | some cs =>
      match value cs with
      | none => none
      | some (v, rest) =>
        match space? rest with
        | some (',' :: rest) => readItems? value fuel (v :: acc) rest
        | some (']' :: rest) => some ((v :: acc).reverse, rest)
        | _ => none

def readMember? (value : List Char → Option (Toml × List Char)) (cs : List Char) :
    Option (List String × Toml × List Char) :=
  match key? cs with
  | none => none
  | some (path, rest) =>
    match space? rest with
    | some ('=' :: rest) =>
      ((space? rest).bind value).map fun (v, rest) => (path, v, rest)
    | _ => none

def readSettings? (value : List Char → Option (Toml × List Char)) :
    Nat → Entries → List Char → Option (Entries × List Char)
  | 0, _, _ => none
  | fuel + 1, acc, cs =>
    match space? cs with
    | none => none
    | some ('\x7d' :: rest) => some (acc, rest)
    | some cs =>
      match readMember? value cs with
      | none => none
      | some (path, v, rest) =>
        match insert? v path acc, space? rest with
        | some acc, some (',' :: rest) => readSettings? value fuel acc rest
        | some acc, some ('\x7d' :: rest) => some (acc, rest)
        | _, _ => none

/-- Reads a value in which arrays and inline tables nest at most `depth` deep. -/
def readValue? : Nat → List Char → Option (Toml × List Char)
  | depth, cs =>
    match cs with
    | '"' :: _ | '\'' :: _ => (readText? true cs).map fun (s, rest) => (.text s, rest)
    | '[' :: rest =>
      match depth with
      | 0 => none
      | depth + 1 =>
        (readItems? (readValue? depth) (rest.length + 1) [] rest).map fun (items, rest) =>
          (.array items, rest)
    | '\x7b' :: rest =>
      match depth with
      | 0 => none
      | depth + 1 =>
        (readSettings? (readValue? depth) (rest.length + 1) [] rest).map fun (entries, rest) =>
          (ofEntries entries, rest)
    | _ => readUnquoted? cs

/-- Reads the line of a header: its key, whether it opens an element of an array, and the rest. -/
def readHeader? (cs : List Char) : Option (List String × Bool × List Char) :=
  match cs with
  | '[' :: '[' :: cs =>
    match key? cs with
    | some (path, ']' :: ']' :: rest) => (afterLine? rest).map fun rest => (path, true, rest)
    | _ => none
  | '[' :: cs =>
    match key? cs with
    | some (path, ']' :: rest) => (afterLine? rest).map fun rest => (path, false, rest)
    | _ => none
  | _ => none

/-- Reads the line of a setting, or the lines if its value runs over several. -/
def readSetting? (cs : List Char) : Option (List String × Toml × List Char) :=
  match key? cs with
  | some (path, '=' :: rest) =>
    match readValue? maxDepth (skipBlanks rest) with
    | some (v, rest) => (afterLine? rest).map fun rest => (path, v, rest)
    | none => none
  | _ => none

def openHeader? (path : List String) (isElement : Bool) (root : Entries) : Option Entries :=
  match path.getLast? with
  | none => none
  | some key =>
    atHeader? (if isElement then openElement? key else openTable? key) path.dropLast root

def readLines? : Nat → List String → Entries → List Char → Option Entries
  | 0, _, _, _ => none
  | fuel + 1, header, root, cs =>
    match space? cs with
    | none => none
    | some [] => some root
    | some ('[' :: cs) =>
      match readHeader? ('[' :: cs) with
      | none => none
      | some (path, isElement, rest) =>
        match openHeader? path isElement root with
        | some root => readLines? fuel path root rest
        | none => none
    | some cs =>
      match readSetting? cs with
      | none => none
      | some (path, v, rest) =>
        match atHeader? (insert? v path) header root with
        | some root => readLines? fuel header root rest
        | none => none

/-- The document that a text spells; a byte order mark before it counts for nothing. -/
def parse? (cs : List Char) : Option Toml :=
  let cs := if cs.head? == some '\uFEFF' then cs.drop 1 else cs
  (readLines? (cs.length + 1) [] [] cs).map ofEntries

end Switchyard.Toml
