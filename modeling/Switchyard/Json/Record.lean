import Switchyard.Json.Basic

namespace Switchyard.Json

/-- The fields of a record, each if it is given. An array may be shorter than the record, never
longer. -/
def fields? (names : List String) : Json → Option (List (Option Json))
  | .obj members => some (names.map fun n => members.lookup n)
  | .arr items =>
    if items.length ≤ names.length then
      some (items.map some ++ List.replicate (names.length - items.length) none)
    else none
  | _ => none

def required? {α : Type} (decode : Json → Option α) (field : Option Json) : Option α :=
  field.bind decode

def optional? {α : Type} (decode : Json → Option α) : Option Json → Option (Option α)
  | none => some none
  | some .null => some none
  | some j => (decode j).map some

/-- Decodes a field that has a default when it is missing; null is no value for it. -/
def defaulted? {α : Type} (default : α) (decode : Json → Option α) : Option Json → Option α
  | none => some default
  | some j => decode j

def list? {α : Type} (decode : Json → Option α) : Json → Option (List α)
  | .arr items => items.mapM decode
  | _ => none

def present (members : List (String × Option Json)) : Json :=
  .ofMembers (members.filterMap fun (k, v) => v.map fun v => (k, v))

end Switchyard.Json
