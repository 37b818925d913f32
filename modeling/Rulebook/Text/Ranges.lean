import Rulebook.Text.Blank

/-!
# Tables of code points

A set of characters is the list of its ranges; a mapping of characters is a list of shifts.  Both
are written in hexadecimal, one range a word: `41-5a` is a range, `aa` a single code point,
`61-7a_20` the range moved down by 0x20, `100-12e/2+1` every second code point moved up by one.
-/

namespace Rulebook.Text

/-- the value of a hexadecimal digit -/
def hexDigit? (c : Char) : Option Nat :=
  if '0' ≤ c ∧ c ≤ '9' then some (c.toNat - 48)
  else if 'a' ≤ c ∧ c ≤ 'f' then some (c.toNat - 87)
  else if 'A' ≤ c ∧ c ≤ 'F' then some (c.toNat - 55)
  else none

/-- the value of the leading hexadecimal digits, and what follows them -/
def hexNumber : List Char → Nat → Nat × List Char
  | [], n => (n, [])
  | c :: cs, n => match hexDigit? c with
    | some d => hexNumber cs (16 * n + d)
    | none => (n, c :: cs)

/-! ## ranges -/

/-- a set of code points: ascending ranges with gaps between them -/
structure Ranges where
  list : List (Nat × Nat)
deriving DecidableEq, Repr

namespace Ranges

/-- a range and those that begin behind it, in one where they overlap or touch -/
def join (p : Nat × Nat) : List (Nat × Nat) → List (Nat × Nat)
  | [] => [p]
  | q :: qs => if q.1 ≤ p.2 + 1 then join (p.1, max p.2 q.2) qs else p :: join q qs

/-- the ranges in any order, which may overlap -/
def ofList (ps : List (Nat × Nat)) : Ranges :=
  match ps.mergeSort fun p q => p.1 ≤ q.1 with
  | [] => ⟨[]⟩
  | p :: ps => ⟨join p ps⟩

def ofText (text : String) : Ranges :=
  ofList ((words text).map fun word =>
    match hexNumber word.toList 0 with
    | (lo, '-' :: rest) => (lo, (hexNumber rest 0).1)
    | (lo, _) => (lo, lo))

/-- some range of an ascending list holds a number -/
def among (n : Nat) : List (Nat × Nat) → Bool
  | [] => false
  | p :: ps => if n < p.1 then false else n ≤ p.2 || among n ps

def contains (r : Ranges) (c : Char) : Bool := among c.toNat r.list

def none : Ranges := ⟨[]⟩

def range (low high : Char) : Ranges := ⟨[(low.toNat, high.toNat)]⟩

def single (c : Char) : Ranges := range c c

def ofChars (cs : List Char) : Ranges := ofList (cs.map fun c => (c.toNat, c.toNat))

def union (r s : Ranges) : Ranges := ofList (r.list ++ s.list)

def unions (rs : List Ranges) : Ranges := ofList (rs.flatMap Ranges.list)

/-- the ranges between those of an ascending list, from `n` on -/
def gaps (n : Nat) : List (Nat × Nat) → List (Nat × Nat)
  | [] => if n ≤ 0x10FFFF then [(n, 0x10FFFF)] else []
  | p :: ps => if n < p.1 then (n, p.1 - 1) :: gaps (p.2 + 1) ps else gaps (p.2 + 1) ps

/-- all other characters; surrogates are none -/
def compl (r : Ranges) : Ranges := ⟨gaps 0 (ofList ((0xD800, 0xDFFF) :: r.list)).list⟩

def any : Ranges := compl none

def inter (r s : Ranges) : Ranges := compl (union (compl r) (compl s))

def diff (r s : Ranges) : Ranges := inter r (compl s)

def symmDiff (r s : Ranges) : Ranges := union (diff r s) (diff s r)

end Ranges

/-! ## shifts -/

/-- the code points `lo`, `lo + step`, … up to `hi`, each moved by `delta` -/
structure Shift where
  lo : Nat
  hi : Nat
  step : Nat
  delta : Int

def Shift.covers (s : Shift) (n : Nat) : Bool :=
  s.lo ≤ n && n ≤ s.hi && (n - s.lo) % s.step == 0

/-- the image of a code point of the shift -/
def Shift.image (s : Shift) (n : Nat) : Nat := (Int.ofNat n + s.delta).toNat

/-- the code point whose image is `n`, if there is one -/
def Shift.source? (s : Shift) (n : Nat) : Option Nat :=
  let m := (Int.ofNat n - s.delta).toNat
  if s.covers m && s.image m == n then some m else none

def Shift.ofText (word : String) : Shift :=
  let (lo, rest) := hexNumber word.toList 0
  let (hi, rest) := match rest with
    | '-' :: rest => hexNumber rest 0
    | _ => (lo, rest)
  let (step, rest) := match rest with
    | '/' :: rest => hexNumber rest 0
    | _ => (1, rest)
  match rest with
  | '+' :: rest => ⟨lo, hi, step, Int.ofNat (hexNumber rest 0).1⟩
  | _ :: rest => ⟨lo, hi, step, -Int.ofNat (hexNumber rest 0).1⟩
  | [] => ⟨lo, hi, step, 0⟩

/-- the shifts of a mapping; at most one covers a code point -/
structure Shifts where
  list : List Shift

def Shifts.ofText (text : String) : Shifts := ⟨(words text).map Shift.ofText⟩

/-- the image of a character, itself where the mapping does not move it -/
def Shifts.apply (t : Shifts) (c : Char) : Char :=
  match t.list.find? (·.covers c.toNat) with
  | some s => Char.ofNat (s.image c.toNat)
  | none => c

/-- the characters that the mapping moves to `c` -/
def Shifts.sources (t : Shifts) (c : Char) : List Char :=
  (t.list.filterMap (·.source? c.toNat)).map Char.ofNat

/-- each character that the mapping covers, with its image -/
def Shifts.pairs (t : Shifts) : List (Nat × Nat) :=
  t.list.flatMap fun s =>
    (List.range ((s.hi - s.lo) / s.step + 1)).map fun i =>
      (s.lo + i * s.step, s.image (s.lo + i * s.step))

/-! ## sequences -/

/-- the mapping of single characters to several: `df=53,53` -/
def sequencesOfText (text : String) : List (Nat × List Char) :=
  (words text).map fun word =>
    match word.splitOn "=" with
    | [key, value] =>
      ((hexNumber key.toList 0).1,
        (value.splitOn ",").map fun w => Char.ofNat (hexNumber w.toList 0).1)
    | _ => (0, [])

end Rulebook.Text
