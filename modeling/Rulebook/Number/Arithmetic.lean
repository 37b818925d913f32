import Rulebook.Number.Binary64

/-!
# Arithmetic on doubles

The remainder has the sign of the dividend and is exact; rounding takes a half up; whole numbers
are recognised exactly.
-/

namespace Rulebook.Number

/-- the exact remainder of the division that drops the fraction -/
def remainder (x y : Float) : Float :=
  match split x, split y with
  | .nan, _ => nan
  | _, .nan => nan
  | .infinite _, _ => nan
  | .finite .., .infinite _ => x
  | .finite .., .finite _ 0 _ => nan
  | .finite negative m e, .finite _ n f =>
    let low := min e f
    let rest := (m * Nat.pow 2 (e - low).toNat) % (n * Nat.pow 2 (f - low).toNat)
    let (num, den) := asRatio rest low
    ofRatio negative num den

/-- to the nearest whole number, a half up; zeros and what is not finite stay -/
def roundHalfUp (x : Float) : Float :=
  match split x with
  | .nan => x
  | .infinite _ => x
  | .finite _ 0 _ => x
  | .finite .. => (x + 0.5).floor

/-- the whole number that a double is -/
def toInt? (x : Float) : Option Int :=
  match split x with
  | .finite negative m e =>
    let (num, den) := asRatio m e
    if num % den == 0 then
      some (if negative then -Int.ofNat (num / den) else Int.ofNat (num / den))
    else none
  | _ => none

/-- a whole number as a double -/
def ofInt (n : Int) : Float := ofRatio (n < 0) n.natAbs 1

def ofNat (n : Nat) : Float := ofRatio false n 1

/-- the order of numbers, with which `nan` is not comparable -/
def compare? (x y : Float) : Option Ordering :=
  if x < y then some .lt
  else if y < x then some .gt
  else if x == y then some .eq
  else none

/-- summing starts from negative zero, so the sum of nothing is `-0` -/
def sum (xs : List Float) : Float := xs.foldl (· + ·) negativeZero

end Rulebook.Number
