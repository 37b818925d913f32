import Rulebook.Number.Binary64
import Rulebook.Text.Blank

/-!
# Numbers as decimal text

Written are the fewest digits that read back, the nearest such to the number, the larger of two at
the same distance, and never an exponent.  Read are an optional sign, digits with at most one point
among or around them, and an optional exponent; the nearest double is taken.
-/

namespace Rulebook.Number

/-! ## shortest digits -/

/-- a decimal `digits · 10 ^ exponent` -/
structure Decimal where
  digits : Nat
  exponent : Int

/-- the number of decimal digits -/
def decimalLength (n : Nat) : Nat := (Nat.toDigits 10 n).length

/-- the `p` with `10 ^ (p - 1) ≤ num / den < 10 ^ p`; below one, `den / num` is more than
`10 ^ -p` and at most `10 ^ (1 - p)` -/
def magnitude (num den : Nat) : Int :=
  if den ≤ num then decimalLength (num / den) else 1 - decimalLength ((den - 1) / num)

/-- the numbers that read as one double lie between `low / unit` and `high / unit`, with the ends
if `closed`; the double itself is `value / unit` -/
structure Interval where
  low : Nat
  value : Nat
  high : Nat
  unit : Nat
  closed : Bool

def Interval.holds (i : Interval) (num den : Nat) : Bool :=
  let x := num * i.unit
  if i.closed then i.low * den ≤ x && x ≤ i.high * den else i.low * den < x && x < i.high * den

/-- the interval of `m · 2 ^ e`, which is shorter below a power of two -/
def interval (m : Nat) (e : Int) : Interval :=
  let below := if m == Nat.pow 2 52 && -1074 < e then 1 else 2
  let (scale, unit) := asRatio 1 (e - 2)
  ⟨(4 * m - below) * scale, 4 * m * scale, (4 * m + 2) * scale, unit, m % 2 == 0⟩

/-- of the two multiples of `10 ^ place` around the number the nearer one in the interval -/
def Interval.onGrid? (i : Interval) (place : Int) : Option Nat :=
  let (up, down) := if 0 ≤ place then (Nat.pow 10 place.toNat, 1) else (1, Nat.pow 10 (-place).toNat)
  let d := i.value * down / (i.unit * up)
  let rest := i.value * down - d * (i.unit * up)
  match i.holds (d * up) down, i.holds ((d + 1) * up) down with
  | true, true => some (if 2 * rest < i.unit * up then d else d + 1)
  | true, false => some d
  | false, true => some (d + 1)
  | false, false => none

/-- the first grid with a hit, from `places` digits on -/
def Interval.shortest (i : Interval) (magnitude : Int) (places : Nat) : Nat → Decimal
  | 0 => ⟨0, 0⟩
  | n + 1 =>
    match i.onGrid? (magnitude - places) with
    | some d => ⟨d, magnitude - places⟩
    | none => i.shortest magnitude (places + 1) n

/-- the shortest decimal that reads as `m · 2 ^ e`; seventeen digits always do -/
def shortestDecimal (m : Nat) (e : Int) : Decimal :=
  let i := interval m e
  i.shortest (magnitude i.value i.unit) 1 17

/-! ## writing -/

/-- digits with the point where the exponent puts it -/
def Decimal.positional (d : Decimal) : String :=
  let text := Nat.toDigits 10 d.digits
  if 0 ≤ d.exponent then String.ofList (text ++ List.replicate d.exponent.toNat '0')
  else
    let places := (-d.exponent).toNat
    let padded := List.replicate (places + 1 - text.length) '0' ++ text
    let whole := padded.length - places
    String.ofList (padded.take whole ++ '.' :: padded.drop whole)

/-- without the zeros at the end of its digits -/
def Decimal.trimmed (d : Decimal) : Nat → Decimal
  | 0 => d
  | n + 1 =>
    if d.digits != 0 && d.digits % 10 == 0 then
      Decimal.trimmed ⟨d.digits / 10, d.exponent + 1⟩ n
    else d

/-- the text of a number; both zeros are `0` -/
def format (x : Float) : String :=
  match split x with
  | .nan => "NaN"
  | .infinite negative => if negative then "-Infinity" else "Infinity"
  | .finite _ 0 _ => "0"
  | .finite negative m e =>
    let text := ((shortestDecimal m e).trimmed 17).positional
    if negative then "-" ++ text else text

/-! ## reading -/

def isDigit (c : Char) : Bool := '0' ≤ c && c ≤ '9'

/-- the number that a run of digits stands for -/
def digitsValue (cs : List Char) : Nat := cs.foldl (fun n c => 10 * n + (c.toNat - 48)) 0

/-- an optional sign, and what follows it -/
def takeSign : List Char → Bool × List Char
  | '-' :: cs => (true, cs)
  | '+' :: cs => (false, cs)
  | cs => (false, cs)

/-- the exponent after the digits; nothing stands for zero -/
def readExponent? : List Char → Option Int
  | [] => some 0
  | c :: cs =>
    if c == 'e' || c == 'E' then
      let (negative, ds) := takeSign cs
      if ds.isEmpty || !ds.all isDigit then none
      else some (if negative then -Int.ofNat (digitsValue ds) else Int.ofNat (digitsValue ds))
    else none

/-- the double nearest to `± digits · 10 ^ exponent`; beyond the range of doubles the power itself
is not computed -/
def ofDecimal (negative : Bool) (d : Decimal) : Float :=
  if d.digits == 0 || Int.ofNat (decimalLength d.digits) + d.exponent < -400 then ofRatio negative 0 1
  else if 400 < d.exponent then ofRatio negative (Nat.pow 10 400) 1
  else if 0 ≤ d.exponent then ofRatio negative (d.digits * Nat.pow 10 d.exponent.toNat) 1
  else ofRatio negative d.digits (Nat.pow 10 (-d.exponent).toNat)

/-- digits, point and exponent, all of the text -/
def readDecimal? (cs : List Char) : Option Float :=
  let (negative, cs) := takeSign cs
  let whole := cs.takeWhile isDigit
  let (fraction, rest) := match cs.dropWhile isDigit with
    | '.' :: rest => (rest.takeWhile isDigit, rest.dropWhile isDigit)
    | rest => ([], rest)
  if whole.isEmpty && fraction.isEmpty then none
  else (readExponent? rest).map fun exponent =>
    ofDecimal negative ⟨digitsValue (whole ++ fraction), exponent - fraction.length⟩

/-- blanks around a number do not count, and what is no number is `nan` -/
def parse (s : String) : Float := (readDecimal? (Text.trimChars s.toList)).getD nan

end Rulebook.Number
