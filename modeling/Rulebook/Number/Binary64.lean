/-!
# Binary floating point, exactly

A finite double is `± m · 2 ^ e` with `m < 2 ^ 53` and `-1074 ≤ e`.  `split` reads the three off the
bits, `ofRatio` goes back: it gives the double nearest to a quotient, the even one of two.
-/

namespace Rulebook.Number

/-- what the bits of a double stand for -/
inductive Parts where
  | nan
  | infinite (negative : Bool)
  | finite (negative : Bool) (mantissa : Nat) (exponent : Int)

def split (x : Float) : Parts :=
  let bits := x.toBits.toNat
  let negative := bits / Nat.pow 2 63 == 1
  let biased : Nat := bits / Nat.pow 2 52 % Nat.pow 2 11
  let fraction : Nat := bits % Nat.pow 2 52
  if biased == 2047 then
    if fraction == 0 then .infinite negative else .nan
  else if biased == 0 then .finite negative fraction (-1074)
  else .finite negative (Nat.pow 2 52 + fraction) (Int.ofNat biased - 1075)

/-- `m · 2 ^ e` as a quotient -/
def asRatio (m : Nat) (e : Int) : Nat × Nat :=
  if 0 ≤ e then (m * Nat.pow 2 e.toNat, 1) else (m, Nat.pow 2 (-e).toNat)

/-- the quotient rounded to the nearest whole number, a half to the even neighbour -/
def roundHalfEven (num den : Nat) : Nat :=
  let q := num / den
  let r := num % den
  if 2 * r < den then q
  else if den < 2 * r then q + 1
  else if q % 2 == 0 then q else q + 1

def signBit (negative : Bool) : Nat := if negative then Nat.pow 2 63 else 0

def infinityBits : Nat := 2047 * Nat.pow 2 52

/-- the exponent of the last binary digit that a double near `num / den` keeps -/
def lastPlace (num den : Nat) : Int :=
  let near : Int := num.log2 - den.log2 - 53
  let (scaled, unit) :=
    if 0 ≤ near then (num, den * Nat.pow 2 near.toNat) else (num * Nat.pow 2 (-near).toNat, den)
  max (-1074) (if scaled / unit < Nat.pow 2 53 then near else near + 1)

/-- the double nearest to `± num / den` -/
def ofRatio (negative : Bool) (num den : Nat) : Float :=
  if num == 0 then Float.ofBits (signBit negative).toUInt64 else
  let place := lastPlace num den
  let digits :=
    if 0 ≤ place then roundHalfEven num (den * Nat.pow 2 place.toNat)
    else roundHalfEven (num * Nat.pow 2 (-place).toNat) den
  let bits := (place + 1074).toNat * Nat.pow 2 52 + digits
  Float.ofBits (signBit negative + min bits infinityBits).toUInt64

/-- not a number -/
def nan : Float := Float.ofBits 0x7ff8000000000000

def infinity : Float := Float.ofBits 0x7ff0000000000000

def negativeZero : Float := Float.ofBits 0x8000000000000000

def isNaN (x : Float) : Bool := !(x == x)

/-- equal as bits are: tells `-0` from `0` -/
def isNegativeZero (x : Float) : Bool := x.toBits == 0x8000000000000000

end Rulebook.Number
