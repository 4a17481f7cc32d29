import Switchyard.Text.Utf8
import Switchyard.Uri.Percent
import Switchyard.Uri.Domain.Alphabet
import Switchyard.Uri.Domain.Composition
import Switchyard.Uri.Domain.Direction
import Switchyard.Uri.Domain.Encoded
import Switchyard.Uri.Domain.Form
import Switchyard.Uri.Domain.Joiner

namespace Switchyard.Uri

/-- A domain name, by the text of its labels from the left; the last is empty if the name ends in a
dot. -/
structure Domain where
  labels : List (List Char)
  deriving DecidableEq

namespace Domain

/-- Whether an ASCII character has a meaning of its own in a URI, or is a control. -/
def isDelimiter (c : Char) : Bool :=
  c.toNat < 0x20 || c == '\x7F'
    || [' ', '%', '#', '/', ':', '<', '>', '?', '@', '[', '\\', ']', '^', '|'].contains c

/-- The characters that a name reads for a character; none if no name has it. -/
def read? (c : Char) : Option (List Char) :=
  if c.toNat < 0x80 then some [c.toLower]
  else if isRefused c then none
  else if isIgnored c then some []
  else some ((formText? c).getD [c])

def readAll? : List Char → Option (List Char)
  | [] => some []
  | c :: cs =>
    match read? c, readAll? cs with
    | some text, some rest => some (text ++ rest)
    | _, _ => none

/-- The text that a host spells, composed; a delimiter may be in it only under a mark. -/
def textOf? (host : List Char) : Option (List Char) :=
  ((readAll? host).map compose).filter fun text => !text.any isDelimiter

def splitDots : List Char → List (List Char)
  | [] => [[]]
  | c :: cs =>
    if c == '.' then [] :: splitDots cs
    else
      match splitDots cs with
      | [] => [[c]]
      | label :: rest => (c :: label) :: rest

def isExact (c : Char) : Bool :=
  if c.toNat < 0x80 then !isDelimiter c else read? c == some [c] && !isRespelled c

def maxEncoded : Nat := 2000

def maxPlain : Nat := 1000

def isAscii (cs : List Char) : Bool := cs.all (·.toNat < 0x80)

/-- The text of a label, which is encoded if it starts with a prefix. The text of an encoded label
must need the encoding, and no other. -/
def labelText? : List Char → Option (List Char)
  | 'x' :: 'n' :: '-' :: '-' :: encoded =>
    if isAscii encoded && encoded.length ≤ maxEncoded then
      (decodeLabel? encoded).filter fun text => text.all isExact && compose text == text
    else none
  | label => if isAscii label || label.length ≤ maxPlain then some label else none

/-- Whether a label can be told from its neighbours: it has no mark at its start and no joiner that
does not show. -/
def isLegible (label : List Char) : Bool :=
  !label.head?.any isMark && joinersShow [] label

def labelTexts? : List (List Char) → Option (List (List Char))
  | [] => some []
  | label :: rest =>
    match labelText? label, labelTexts? rest with
    | some text, some texts => some (text :: texts)
    | _, _ => none

/-- Whether a domain has a legible spelling: if one of its labels turns the line, each reads in one
direction. -/
def isValid (domain : Domain) : Bool :=
  domain.labels != [[]] && domain.labels.all isLegible
    && (!domain.labels.any turnsLine || domain.labels.all isOneWay)

def ofHost? (host : List Char) : Option Domain :=
  ((Text.Utf8.decode? (decode host)).bind textOf?).bind fun text =>
    ((labelTexts? (splitDots text)).map Domain.mk).filter isValid

def named (domain : Domain) : List (List Char) :=
  match domain.labels.reverse with
  | [] :: rest => rest.reverse
  | _ => domain.labels

end Domain

end Switchyard.Uri
