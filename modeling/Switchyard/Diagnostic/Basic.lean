import Switchyard.Json.Record
import Switchyard.Path

namespace Switchyard

inductive Severity where
  | error
  | warning
  | information
  | hint
  deriving DecidableEq, Inhabited

namespace Severity

def toNat : Severity → Nat
  | .error => 1
  | .warning => 2
  | .information => 3
  | .hint => 4

def ofNat? : Nat → Option Severity
  | 1 => some .error
  | 2 => some .warning
  | 3 => some .information
  | 4 => some .hint
  | _ => none

def label : Severity → String
  | .error => "error"
  | .warning => "warning"
  | .information => "info"
  | .hint => "hint"

end Severity

/-- The code of a diagnostic; servers send an integer or a string. -/
inductive DiagnosticCode where
  | number (n : Int64)
  | text (s : String)
  deriving DecidableEq, Inhabited

/-- A place in a document, both parts counted from zero. -/
structure Position where
  line : UInt32
  character : UInt32
  deriving DecidableEq, Inhabited

structure Span where
  start : Position
  stop : Position
  deriving DecidableEq, Inhabited

structure Diagnostic where
  message : String
  range : Span
  severity : Option Severity
  code : Option DiagnosticCode
  source : Option String
  deriving DecidableEq, Inhabited

def Json.uint32? (j : Json) : Option UInt32 := j.u32?.map UInt32.ofNat

def Json.int32? (j : Json) : Option Int32 := j.i32?.map Int32.ofInt

def Json.int64? (j : Json) : Option Int64 := j.i64?.map Int64.ofInt

namespace Position

def ofJson? (j : Json) : Option Position :=
  match j.fields? ["line", "character"] with
  | some [line, character] => do
    return ⟨← Json.required? Json.uint32? line, ← Json.required? Json.uint32? character⟩
  | _ => none

def toJson (p : Position) : Json :=
  .ofMembers [("line", .nat p.line.toNat), ("character", .nat p.character.toNat)]

end Position

namespace Span

def ofJson? (j : Json) : Option Span :=
  match j.fields? ["start", "end"] with
  | some [start, stop] => do
    return ⟨← Json.required? Position.ofJson? start, ← Json.required? Position.ofJson? stop⟩
  | _ => none

def toJson (s : Span) : Json :=
  .ofMembers [("start", s.start.toJson), ("end", s.stop.toJson)]

end Span

namespace Severity

def ofJson? (j : Json) : Option Severity := j.u64?.bind ofNat?

def toJson (s : Severity) : Json := .nat s.toNat

end Severity

namespace DiagnosticCode

def ofJson? : Json → Option DiagnosticCode
  | .str s => some (.text s)
  | j => j.int64?.map .number

def toJson : DiagnosticCode → Json
  | .number n => .int n.toInt
  | .text s => .str s

end DiagnosticCode

namespace Diagnostic

def fieldNames : List String := ["message", "range", "severity", "code", "source"]

def ofFields? : List (Option Json) → Option Diagnostic
  | [message, range, severity, code, source] => do
    let message ← Json.required? Json.str? message
    let range ← Json.required? Span.ofJson? range
    let severity ← Json.optional? Severity.ofJson? severity
    let code ← Json.optional? DiagnosticCode.ofJson? code
    let source ← Json.optional? Json.str? source
    return { message, range, severity, code, source }
  | _ => none

def ofJson? (j : Json) : Option Diagnostic := (j.fields? fieldNames).bind ofFields?

def toJson (d : Diagnostic) : Json :=
  .present [("message", some (.str d.message)), ("range", some d.range.toJson),
    ("severity", d.severity.map Severity.toJson), ("code", d.code.map DiagnosticCode.toJson),
    ("source", d.source.map .str)]

def isError (d : Diagnostic) : Bool := d.severity == some .error

/-- The line of a report: place, severity, source and message. The place is counted from one, in 32
bits. -/
def line (d : Diagnostic) (file : Path) : String :=
  file.display ++ ":" ++ toString (d.range.start.line + 1) ++ ":"
    ++ toString (d.range.start.character + 1) ++ ": "
    ++ (d.severity.map Severity.label).getD "warning" ++ ": ["
    ++ d.source.getD "unknown" ++ "] " ++ d.message

end Diagnostic
end Switchyard
