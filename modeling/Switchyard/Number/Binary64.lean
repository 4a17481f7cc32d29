namespace Switchyard

/-- The number `(-1)^negative * significand * 2^exponent`. -/
structure Binary64 where
  negative : Bool
  significand : Nat
  exponent : Int
  deriving DecidableEq, Inhabited

namespace Binary64

def zero : Binary64 := ⟨false, 0, -1074⟩

def roundDiv (num den : Nat) : Nat :=
  let q := num / den
  let r := num % den
  if 2 * r > den || (2 * r == den && q % 2 == 1) then q + 1 else q

/-- The magnitude `num / den` (`den` not zero) as a number, none where it is too big for one. -/
def ofRatio? (num den : Nat) : Option Binary64 :=
  if num == 0 then some zero
  else
    -- the quotient lies between 2^(k-1) and 2^(k+1)
    let k : Int := (num.log2 : Int) - den.log2
    let scale (e : Int) : Nat :=
      if e ≤ 0 then roundDiv (num * Nat.pow 2 (-e).toNat) den
      else roundDiv num (den * Nat.pow 2 e.toNat)
    -- the coarsest grid on which the quotient has no more than 53 bits before rounding
    let low := max (k - 53) (-1074)
    let fits : Bool :=
      if low ≤ 0 then num * Nat.pow 2 (-low).toNat < den * Nat.pow 2 53
      else num < den * Nat.pow 2 (low.toNat + 53)
    let e := if fits then low else low + 1
    let m := scale e
    let (m, e) := if m == Nat.pow 2 53 then (Nat.pow 2 52, e + 1) else (m, e)
    if e > 971 then none else some ⟨false, m, e⟩

def ratio (x : Binary64) : Nat × Nat :=
  if x.exponent ≤ 0 then (x.significand, Nat.pow 2 (-x.exponent).toNat)
  else (x.significand * Nat.pow 2 x.exponent.toNat, 1)

def mul? (x y : Binary64) : Option Binary64 :=
  ofRatio? (x.ratio.1 * y.ratio.1) (x.ratio.2 * y.ratio.2)

def div? (x y : Binary64) : Option Binary64 :=
  ofRatio? (x.ratio.1 * y.ratio.2) (x.ratio.2 * y.ratio.1)

/-- Whether the decimal `digits * 10^power` rounds to the magnitude of `x`. -/
def readsBack (x : Binary64) (digits : Nat) (power : Int) : Bool :=
  let num := if power ≥ 0 then digits * Nat.pow 10 power.toNat else digits
  let den := if power ≥ 0 then 1 else Nat.pow 10 (-power).toNat
  match ofRatio? num den with
  | some y => y.significand == x.significand && y.exponent == x.exponent
  | none => false

/-- The number of decimal digits before the point of `num / den`, negative or zero if there are
none: the `p` with `10^(p-1) ≤ num / den < 10^p`. -/
def decimalPlace (num den : Nat) : Int :=
  let guess : Int := (Nat.toDigits 10 num).length - (Nat.toDigits 10 den).length
  -- the quotient lies between 10^(guess-1) and 10^(guess+1)
  let reached : Bool :=
    if guess ≥ 0 then num ≥ den * Nat.pow 10 guess.toNat
    else num * Nat.pow 10 (-guess).toNat ≥ den
  if reached then guess + 1 else guess

/-- The decimal with `n` significant digits that is nearest to the magnitude, if it reads back; of
two that do the nearer, of two as near the even one. -/
def digitsOf? (x : Binary64) (place : Int) (n : Nat) : Option (Nat × Int) :=
  let power := place - n
  let (num, den) := x.ratio
  let (num, den) :=
    if power ≥ 0 then (num, den * Nat.pow 10 power.toNat)
    else (num * Nat.pow 10 (-power).toNat, den)
  let near := roundDiv num den
  let far := if near == num / den then near + 1 else near - 1
  if readsBack x near power then some (near, power)
  else if readsBack x far power then some (far, power)
  else none

def shortest (x : Binary64) : Nat × Int :=
  let (num, den) := x.ratio
  let place := decimalPlace num den
  match (List.range 17).findSome? fun n => digitsOf? x place (n + 1) with
  | some r => r
  | none => (0, 0)

def dropZeros : Nat → Nat × Int → Nat × Int
  | 0, r => r
  | fuel + 1, (d, p) => if d != 0 && d % 10 == 0 then dropZeros fuel (d / 10, p + 1) else (d, p)

def zeros (n : Nat) : String := String.ofList (List.replicate n '0')

/-- The text: positional from 10^-5 up to 10^16, with a point and at least one digit on each side
of it, else with an exponent that always has a sign. -/
def toText (x : Binary64) : String :=
  let sign := if x.negative then "-" else ""
  if x.significand == 0 then sign ++ "0.0"
  else
    let (d, p) := dropZeros 20 x.shortest
    let digits := toString d
    let point : Int := digits.length + p
    let body :=
      if p ≥ 0 && point ≤ 16 then digits ++ zeros p.toNat ++ ".0"
      else if 0 < point && point ≤ 16 then
        String.ofList (digits.toList.take point.toNat) ++ "."
          ++ String.ofList (digits.toList.drop point.toNat)
      else if -5 < point && point ≤ 0 then "0." ++ zeros (-point).toNat ++ digits
      else
        let exponent := (if 0 < point then "+" else "") ++ toString (point - 1)
        match digits.toList with
        | [] => ""
        | [c] => String.ofList [c] ++ "e" ++ exponent
        | c :: rest => String.ofList [c] ++ "." ++ String.ofList rest ++ "e" ++ exponent
    sign ++ body

end Binary64
end Switchyard
