import Switchyard.Document.Glob
import Switchyard.Document.Language
import Switchyard.Text.Sorted

namespace Switchyard

inductive DocumentFilter where
  | ofLanguage (id : String)
  /-- Documents that meet every condition given; `pattern` is a glob on the name relative to the
  workspace root. -/
  | conditions (language pattern scheme : Option String)
  deriving DecidableEq, Inhabited

abbrev DocumentSelector := List DocumentFilter

namespace DocumentFilter

def languageId? : DocumentFilter → Option String
  | .ofLanguage id => some id
  | .conditions language _ _ => language

def accepts (filter : DocumentFilter) (file root : Path) : Bool :=
  match filter with
  | .ofLanguage id => id == Language.detect file
  | .conditions language pattern scheme =>
    language.all (· == Language.detect file)
      && scheme.all (· == "file")
      && pattern.all fun p => (Glob.ofString p).isMatch (file.relativeName root)

end DocumentFilter

namespace DocumentSelector

def accepts (selector : DocumentSelector) (file root : Path) : Bool :=
  selector.any (·.accepts file root)

def languages (selector : DocumentSelector) : List String :=
  Text.sortedSet (selector.filterMap DocumentFilter.languageId?)

end DocumentSelector
end Switchyard
