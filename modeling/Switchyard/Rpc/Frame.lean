import Switchyard.Json.Printer
import Switchyard.Json.Reader
import Switchyard.Number.Natural
import Switchyard.Text.Blank
import Switchyard.Text.Lines
import Switchyard.Text.Quoted
import Switchyard.Text.Utf8

namespace Switchyard.Rpc

def maxFrameBytes : Nat := 8388608

inductive FrameError where
  | headerNotText
  | endInHeaders
  | malformedHeader (line : List Char)
  | invalidLength (value : List Char) (cause : NaturalError)
  | missingLength
  | tooLong (length : Nat)
  | bodyCutShort
  | bodyNotJson
  deriving DecidableEq, Inhabited

def FrameError.message : FrameError → String
  | .headerNotText => "reading header line"
  | .endInHeaders => "unexpected EOF while reading headers"
  | .malformedHeader line => "malformed header line: " ++ Text.quoted line
  | .invalidLength value cause =>
    "invalid Content-Length value " ++ Text.quoted value ++ ": " ++ cause.message
  | .missingLength => "missing Content-Length header"
  | .tooLong n =>
    "Content-Length " ++ toString n ++ " exceeds maximum " ++ toString maxFrameBytes
  | .bodyCutShort => "reading frame body: early eof"
  | .bodyNotJson => "parsing JSON-RPC body"

def splitColon? : List Char → Option (List Char × List Char)
  | [] => none
  | ':' :: cs => some ([], cs)
  | c :: cs => (splitColon? cs).map fun (k, v) => (c :: k, v)

/-- What a trimmed header line says: a length, or something that does not matter. -/
def readHeader (line : List Char) : Except FrameError (Option Nat) :=
  match splitColon? line with
  | none => .error (.malformedHeader line)
  | some (key, value) =>
    if (Text.trim key).map Char.toLower == "content-length".toList then
      match Natural.read (Nat.pow 2 64) (Text.trim value) with
      | .ok n => .ok (some n)
      | .error e => .error (.invalidLength (Text.trim value) e)
    else .ok none

inductive Scan (α : Type) where
  | found (value : α) (rest : List UInt8)
  | finished
  | unfinished
  | failed (error : FrameError)
  deriving Inhabited

/-- Reads header lines up to a blank one; of several lengths the last one counts. `ended` says that
no bytes will follow. -/
def scanHeaders (ended started : Bool) (length : Option Nat) : List UInt8 → Scan Nat
  | [] =>
    if !ended then .unfinished else if started then .failed .endInHeaders else .finished
  | b :: bs =>
    let line := (Text.splitLine (b :: bs)).1
    let rest := (Text.splitLine (b :: bs)).2
    if line.getLast? != some Text.newline && !ended then .unfinished
    else
      match Text.Utf8.decode? line with
      | none => .failed .headerNotText
      | some text =>
        let text := Text.trim text
        if text.isEmpty then
          match length with
          | some n => .found n rest
          | none => .failed .missingLength
        else
          match readHeader text with
          | .error e => .failed e
          | .ok found => scanHeaders ended true (found.or length) rest
termination_by bytes => bytes.length
decreasing_by exact Text.splitLine_rest_lt b bs

def scanBody (ended : Bool) (n : Nat) (bytes : List UInt8) : Scan Json :=
  if maxFrameBytes < n then .failed (.tooLong n)
  else if (bytes.take n).length < n then if ended then .failed .bodyCutShort else .unfinished
  else
    match (Text.Utf8.decode? (bytes.take n)).bind Json.parse? with
    | some j => .found j (bytes.drop n)
    | none => .failed .bodyNotJson

def scan (ended : Bool) (bytes : List UInt8) : Scan Json :=
  match scanHeaders ended false none bytes with
  | .found n rest => scanBody ended n rest
  | .finished => .finished
  | .unfinished => .unfinished
  | .failed e => .failed e

theorem scanHeaders_rest_length {ended started : Bool} {length : Option Nat}
    {bytes rest : List UInt8} {n : Nat}
    (h : scanHeaders ended started length bytes = .found n rest) : rest.length < bytes.length := by
  fun_induction scanHeaders ended started length bytes with
  | case6 _ b bs =>
    simp at h
    exact h.2 ▸ Text.splitLine_rest_lt b bs
  | case9 _ _ b bs _ _ _ _ _ _ _ _ _ ih => exact Nat.lt_trans (ih h) (Text.splitLine_rest_lt b bs)
  | case1 | case2 | case3 | case4 | case5 | case7 | case8 => contradiction

theorem scanBody_rest {ended : Bool} {n : Nat} {bytes rest : List UInt8} {j : Json}
    (h : scanBody ended n bytes = .found j rest) : rest = bytes.drop n := by
  unfold scanBody at h
  repeat' split at h
  all_goals simp_all

theorem scan_rest_length {ended : Bool} {bytes rest : List UInt8} {j : Json}
    (h : scan ended bytes = .found j rest) : rest.length < bytes.length := by
  unfold scan at h
  split at h <;> try contradiction
  rename_i n tail hs
  have := scanHeaders_rest_length hs
  simp [scanBody_rest h]
  omega

inductive StreamEnd where
  | clean
  | failed (error : FrameError)
  deriving DecidableEq, Inhabited

def readAll (bytes : List UInt8) : List Json × StreamEnd :=
  match _h : scan true bytes with
  | .found j rest =>
    let (js, e) := readAll rest
    (j :: js, e)
  | .failed e => ([], .failed e)
  | .finished | .unfinished => ([], .clean)
termination_by bytes.length
decreasing_by exact scan_rest_length _h

def write (j : Json) : List UInt8 :=
  let body := Text.Utf8.ofString j.render
  Text.Utf8.ofString ("Content-Length: " ++ toString body.length ++ "\r\n\r\n") ++ body

end Switchyard.Rpc
