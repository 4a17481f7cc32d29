import Switchyard.Uri.Host
import Switchyard.Uri.Segments

namespace Switchyard.Uri

def componentText : Path.Component → List Char
  | .root => []
  | .here => ['.']
  | .up => ['.', '.']
  | .named name => encode name

/-- The URI of an absolute path, whose components are spelled as they stand. -/
def ofPath? (p : Path) : Option String :=
  match p.isAbsolute, p.components.drop 1 with
  | false, _ => none
  | true, [] => some "file:///"
  | true, components =>
    some (String.ofList ("file://".toList ++ components.flatMap fun c => '/' :: componentText c))

def noUriMessage (p : Path) : String := "cannot convert path to file URI: " ++ p.display

def trim (cs : List Char) : List Char :=
  let isBlank (c : Char) : Bool := c.toNat ≤ 0x20
  (cs.dropWhile isBlank).reverse.dropWhile isBlank |>.reverse

def isSchemeChar (c : Char) : Bool :=
  isAsciiLetter c || c.isDigit || c == '+' || c == '-' || c == '.'

/-- The scheme in lower case, if the text has one after the characters `acc`, and what follows its
colon. -/
def schemeOnto? (acc : List Char) : List Char → Option (List Char × List Char)
  | [] => none
  | c :: cs =>
    if isSkipped c then schemeOnto? acc cs
    else if c == ':' then if acc.isEmpty then none else some (acc.reverse, cs)
    else if if acc.isEmpty then isAsciiLetter c else isSchemeChar c then
      schemeOnto? (c.toLower :: acc) cs
    else none

def SchemeKind.ofScheme (scheme : List Char) : SchemeKind :=
  match String.ofList scheme with
  | "file" => .file
  | "http" | "https" | "ws" | "wss" | "ftp" => .web
  | _ => .other

def afterSeparator? (kind : SchemeKind) (cs : List Char) : Option (List Char) :=
  match cs.dropWhile isSkipped with
  | c :: rest => if kind.isSeparator c then some rest else none
  | [] => none

def dropSeparators (kind : SchemeKind) (cs : List Char) : List Char :=
  cs.dropWhile fun c => isSkipped c || kind.isSeparator c

def SchemeKind.endsAuthority (kind : SchemeKind) (c : Char) : Bool :=
  kind.isSeparator c || endsPath c

def cut (stop : Char → Bool) (cs : List Char) : List Char × List Char :=
  (cs.takeWhile fun c => !stop c, cs.dropWhile fun c => !stop c)

def visible (cs : List Char) : List Char := cs.filter fun c => !isSkipped c

/-- What follows the last `@` of an authority, and what precedes it if there is one. -/
def splitUser (authority : List Char) : Option (List Char) × List Char :=
  if authority.contains '@' then
    let r := authority.reverse
    (some ((r.dropWhile (· != '@')).drop 1).reverse, (r.takeWhile (· != '@')).reverse)
  else (none, authority)

/-- Splits a host and its socket number at the first colon outside of brackets. -/
def splitSocket (inBrackets : Bool) : List Char → List Char × Option (List Char)
  | [] => ([], none)
  | c :: cs =>
    if c == ':' && !inBrackets then ([], some cs)
    else
      let (host, socket) := splitSocket (c == '[' || (c != ']' && inBrackets)) cs
      (c :: host, socket)

def isSocket (digits : List Char) : Bool :=
  digits.all Char.isDigit && digits.foldl (fun n c => n * 10 + (c.toNat - 48)) 0 < 65536

/-- Reads an authority, given without skipped characters, that is that of the local machine. Outside
of the web a backslash after a socket number starts the path: what follows the number is given. -/
def afterOurAuthority? (kind : SchemeKind) (authority : List Char) : Option (List Char) :=
  let (user, rest) := splitUser authority
  let (host, socket) := splitSocket false rest
  match kind with
  | .other =>
    if host.isEmpty then
      if (user.isNone || user == some [':']) && socket.isNone then some [] else none
    else
      let (digits, path) := cut (· == '\\') (socket.getD [])
      if host == localhost && isSocket digits then some path else none
  | _ =>
    if Host.ofText? host == some .ours && isSocket (socket.getD []) then some [] else none

def segmentsAfterAuthority? (kind : SchemeKind) (rest : List Char) : Option (List (List Char)) :=
  match rest.dropWhile isSkipped with
  | [] => if kind == .other then none else some [[]]
  | c :: cs =>
    if endsPath c then if kind == .other then none else some [[]]
    else if kind.isSeparator c then some (readPath kind cs).segments
    else some (readPath kind (c :: cs)).segments

/-- The segments of a path of files that follows two slashes. A drive may stand in the place of the
host, and a path that starts with a drive leaves the host out of account. After no host, or ours,
the slash before the path is read as part of it. -/
def fileSegments? (rest : List Char) : Option (List (List Char)) :=
  let (authority, rest') := cut SchemeKind.file.endsAuthority rest
  let host := visible authority
  if (drive? host).isSome then some (readPath .file rest).segments
  else
    match if host.isEmpty then some .ours else Host.ofText? host with
    | some .ours => some (readPath .file rest').segments
    | some .another =>
      let path := readPath .file (rest'.drop 1)
      if path.hasDrive && !rest'.head?.any endsPath then some path.segments else none
    | none => none

/-- The segments of a path that follows the two slashes of a URI of another scheme. -/
def hostedSegments? (kind : SchemeKind) (rest : List Char) : Option (List (List Char)) :=
  let (authority, rest') := cut kind.endsAuthority rest
  (afterOurAuthority? kind (visible authority)).bind fun path =>
    segmentsAfterAuthority? kind (path ++ rest')

/-- The segments of the path of a URI, read after its scheme; none if it has no path or is not of
the local machine. -/
def localSegments? (kind : SchemeKind) (cs : List Char) : Option (List (List Char)) :=
  match kind with
  | .web => hostedSegments? kind (dropSeparators kind cs)
  | _ =>
    match afterSeparator? kind cs with
    | none => if kind == .file then some (readPath kind cs).segments else none
    | some rest =>
      match afterSeparator? kind rest with
      | none => some (readPath kind rest).segments
      | some rest => if kind == .file then fileSegments? rest else hostedSegments? kind rest

def closeDrive (bytes : List UInt8) : List UInt8 :=
  match bytes.reverse with
  | m :: c :: _ :: _ =>
    if (m == 58 || m == 124) && isAsciiLetter (Char.ofNat c.toNat) then bytes ++ [Path.slash]
    else bytes
  | _ => bytes

def toPath? (uri : String) : Option Path :=
  match schemeOnto? [] (trim uri.toList) with
  | none => none
  | some (scheme, rest) =>
    match localSegments? (.ofScheme scheme) rest with
    | none => none
    | some segments => some ⟨closeDrive (segments.flatMap fun s => Path.slash :: decode s)⟩

/-- The one spelling that all spellings of the URI of a file share; another URI is left as it is. -/
def canonical (uri : String) : String :=
  ((toPath? uri).bind ofPath?).getD uri

end Switchyard.Uri
