namespace Switchyard

inductive NaturalError where
  | empty
  | invalidDigit
  | tooLarge
  deriving DecidableEq, Inhabited

namespace NaturalError

def message : NaturalError → String
  | .empty => "cannot parse integer from empty string"
  | .invalidDigit => "invalid digit found in string"
  | .tooLarge => "number too large to fit in target type"

end NaturalError

namespace Natural

def total (ns : List Nat) : Nat := ns.foldr (· + ·) 0

/-- Reads digits after the number `n`; of two faults the first one counts. -/
def readDigits (limit n : Nat) : List Char → Except NaturalError Nat
  | [] => .ok n
  | c :: cs =>
    if !c.isDigit then .error .invalidDigit
    else
      let next := n * 10 + (c.toNat - 48)
      if limit ≤ next then .error .tooLarge else readDigits limit next cs

def read (limit : Nat) : List Char → Except NaturalError Nat
  | [] => .error .empty
  | ['+'] => .error .invalidDigit
  | '+' :: cs => readDigits limit 0 cs
  | cs => readDigits limit 0 cs

end Natural
end Switchyard
