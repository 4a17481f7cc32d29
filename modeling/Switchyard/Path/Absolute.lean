import Switchyard.Path

namespace Switchyard.Path

def Component.bytes : Component → List UInt8
  | .root => [slash]
  | .here => [dot]
  | .up => [dot, dot]
  | .named n => n

def dropHereComponent : List Component → List Component
  | .here :: cs => cs
  | cs => cs

/-- The path seen from the directory `current`, with single separators and without `.`; `..` stays,
and so do two leading slashes and a slash at the end. The empty path has no such form. -/
def absolute? (p current : Path) : Option Path :=
  if p.bytes.isEmpty then none
  else
    let components := dropHereComponent p.components
    let twoSlashes := p.bytes.take 2 == [slash, slash] && p.bytes.take 3 != [slash, slash, slash]
    let start : Path :=
      if twoSlashes then ⟨[slash, slash]⟩ else if p.isAbsolute then ⟨[]⟩ else current
    let rest := if twoSlashes then components.drop 1 else components
    let path := rest.foldl (fun q c => q.join ⟨c.bytes⟩) start
    some (if p.bytes.getLast? == some slash then path.join ⟨[]⟩ else path)

end Switchyard.Path
