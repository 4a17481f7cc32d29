import Switchyard.Toml.Basic

namespace Switchyard.Toml

def fields? (names : List String) : Toml → Option (List (Option Toml))
  | .table entries => some (names.map fun n => entries.lookup n)
  | .array items => some ((names.zipIdx).map fun n => items[n.2]?)
  | .datetime => some (names.map fun _ => none)
  | _ => none

def text? : Toml → Option String
  | .text s => some s
  | _ => none

def boolean? : Toml → Option Bool
  | .boolean b => some b
  | _ => none

def u64? : Toml → Option Nat
  | .integer n => if 0 ≤ n && n < Nat.pow 2 64 then some n.toNat else none
  | _ => none

def list? {α : Type} (decode : Toml → Option α) : Toml → Option (List α)
  | .array items => items.mapM decode
  | _ => none

def optional? {α : Type} (decode : Toml → Option α) : Option Toml → Option (Option α)
  | none => some none
  | some v => (decode v).map some

def defaulted? {α : Type} (default : α) (decode : Toml → Option α) : Option Toml → Option α
  | none => some default
  | some v => decode v

end Switchyard.Toml
