import Rulebook.Regex.Basic

/-!
# The size of patterns

A pattern may not take more room than `Pattern.sizeLimit` when it is laid out as a machine over the
bytes of UTF-8, be it read forward or backward.  `Pattern.size` is that room in bytes: 32 for a
state, 8 for each way out of a state with several byte ranges, and 4 for each way out of a branch.
-/

namespace Rulebook.Regex

inductive Direction where
  | forward
  | backward
deriving DecidableEq, Repr

/-- all of the numbers added up -/
def total (ns : List Nat) : Nat := ns.foldr (· + ·) 0

/-! ## bytes of characters -/

/-- ranges of bytes one after the other, of which any choice is a character -/
abbrev ByteSeq := List (Nat × Nat)

/-- the sequences for the numbers from `lo` to `hi` with a leading byte and `n` more; `lead` is
added to the leading byte -/
def byteSeqs (lead : Nat) : Nat → Nat → Nat → List ByteSeq
  | 0, lo, hi => [[(lead + lo, lead + hi)]]
  | n + 1, lo, hi =>
    let block := Nat.pow 64 (n + 1)
    let first := lo / block
    let last := hi / block
    let under := fun (i : Nat) (qs : List ByteSeq) => qs.map ((lead + i, lead + i) :: ·)
    if first = last then under first (byteSeqs 0x80 n (lo % block) (hi % block))
    else
      let cutLow := lo % block != 0
      let cutHigh := hi % block != block - 1
      let low := if cutLow then first + 1 else first
      let high := if cutHigh then last - 1 else last
      (if cutLow then under first (byteSeqs 0x80 n (lo % block) (block - 1)) else []) ++
      (if low ≤ high then
        [(lead + low, lead + high) :: List.replicate (n + 1) (0x80, 0xBF)] else []) ++
      (if cutHigh then under last (byteSeqs 0x80 n 0 (hi % block)) else [])

/-- the part of a range that takes a number of bytes -/
def clip (low high : Nat) (p : Nat × Nat) : Option (Nat × Nat) :=
  let q := (max low p.1, min high p.2)
  if q.1 ≤ q.2 then some q else none

/-- the byte sequences of a range of characters, in ascending order -/
def charSeqs (p : Nat × Nat) : List ByteSeq :=
  let part := fun (low high lead n : Nat) =>
    ((clip low high p).map fun q => byteSeqs lead n q.1 q.2).getD []
  part 0 0x7F 0 0 ++ part 0x80 0x7FF 0xC0 1 ++ part 0x800 0xD7FF 0xE0 2 ++
    part 0xE000 0xFFFF 0xE0 2 ++ part 0x10000 0x10FFFF 0xF0 3

def utf8Seqs (s : CharSet) : List ByteSeq := s.list.flatMap charSeqs

/-- the bytes of a character -/
def utf8Bytes (c : Char) : List Nat := (charSeqs (c.toNat, c.toNat)).flatten.map Prod.fst

/-! ## sets -/

/-- the sequences with one leading range each, without it -/
def branches (qs : List ByteSeq) : List (List ByteSeq) :=
  (qs.splitBy fun p q => p.head? == q.head?).map fun g => g.map List.tail

/-- all states on the way through some sequences, each as what is left there; `n` is the length of
the longest sequence -/
def byteStates : Nat → List ByteSeq → List (List ByteSeq)
  | 0, _ => []
  | n + 1, qs =>
    if qs.all List.isEmpty then []
    else qs :: (branches qs).flatMap (byteStates n)

/-- how many ranges of sequences in ascending order begin no earlier sequence in the same way -/
def newRanges (before : ByteSeq) : List ByteSeq → Nat
  | [] => 0
  | q :: qs => q.length - common before q + newRanges q qs
where
  common : ByteSeq → ByteSeq → Nat
    | a :: p, b :: q => if a = b then common p q + 1 else 0
    | _, _ => 0

/-- the room of a set; forward, states with the same rest are one, and backward, the ways that
begin alike share their beginning -/
def setSize (d : Direction) (s : CharSet) : Nat :=
  if s.list.all (·.2 < 128) then 64 + 8 * s.list.length
  else
    let qs := utf8Seqs s
    match d with
    | .forward =>
      32 + total ((byteStates 4 qs).eraseDups.map fun q => 32 + 8 * (branches q).length)
    | .backward => 64 + 32 * newRanges [] qs + 4 * qs.length

/-- more than the room of a set: a range of characters makes at most 65 ranges of bytes -/
def setBound (s : CharSet) : Nat := 64 + 65 * 44 * s.list.length

/-! ## alternatives of literals -/

/-- the words that stand between empty ones -/
def runs : List (List Nat) → List (List (List Nat))
  | [] => [[]]
  | [] :: ws => [] :: runs ws
  | w :: ws =>
    match runs ws with
    | r :: rs => (w :: r) :: rs
    | [] => [[w]]

/-- for each first byte, in the order of their first appearance, what follows it -/
def byFirst (ws : List (List Nat)) : List (List (List Nat)) :=
  (ws.filterMap List.head?).eraseDups.map fun b =>
    (ws.filter fun w => w.head? == some b).map List.tail

/-- the room of a tree of words, none of them longer than `n`; what a word that ends here is
preferred to is told apart from what comes before it -/
def treeSize : Nat → List (List Nat) → Nat
  | 0, _ => 0
  | n + 1, ws =>
    if ws.all List.isEmpty then 0
    else
      let parts := (runs ws).map byFirst
      let own := fun (p : List (List (List Nat))) =>
        if p.isEmpty then 0 else if p.length = 1 then 36 else 36 + 8 * p.length
      32 + 4 * (parts.length - 1) + total (parts.map own) +
        total (parts.flatten.map (treeSize n))

def literalBytes? : Pattern → Option (List Nat)
  | .literal cs => some (cs.flatMap utf8Bytes)
  | _ => none

/-- the room of alternatives that are all literals -/
def wordsSize (d : Direction) (ws : List (List Nat)) : Nat :=
  let ws := if d = .forward then ws else ws.map List.reverse
  32 + treeSize ((ws.map List.length).foldl max 0 + 1) ws

/-! ## patterns -/

namespace Pattern

/-- the room of a pattern, given that of sets; if it ends a list of alternatives, the room it adds
to that of the others -/
def sizeIn (room : CharSet → Nat) (d : Direction) (ends : Bool) : Pattern → Nat
  | empty => 32 + way ends
  | literal cs => 32 * total (cs.map Char.utf8Size) + way ends
  | char s => room s + way ends
  | assertion _ => 32 + way ends
  | group p => p.sizeIn room d false + (if d = .forward then 64 else 0) + way ends
  | seq p q => p.sizeIn room d false + q.sizeIn room d false + way ends
  | alt p q =>
    let more := p.sizeIn room d false + 4 + q.sizeIn room d true
    if ends then more
    else
      match (alt p q).choices.mapM literalBytes? with
      | some ws => wordsSize d ws
      | none => 64 + more
  | repeated p least most =>
    let one := p.sizeIn room d false
    let n := match most with
      | none =>
        if 0 < least then least * one + 40
        else if p.alwaysConsumes then one + 40
        else one + 112
      | some most =>
        if least = most then least * one
        else if least = 0 && most = 1 then one + 72
        else (if least = 0 then 32 else least * one) + 32 + (most - least) * (one + 40)
    n + way ends
where
  way (ends : Bool) : Nat := if ends then 4 else 0

/-- every match begins at the start of the text -/
def fromStart : Pattern → Bool
  | assertion .textStart => true
  | group p => p.fromStart
  | seq p q => p.fromStart || (p.consumesNothing && q.fromStart)
  | alt p q => p.fromStart && q.fromStart
  | repeated p least _ => 0 < least && p.fromStart
  | _ => false

/-- every match ends at the end of the text -/
def toEnd : Pattern → Bool
  | assertion .textEnd => true
  | group p => p.toEnd
  | seq p q => q.toEnd || (q.consumesNothing && p.toEnd)
  | alt p q => p.toEnd && q.toEnd
  | repeated p least _ => 0 < least && p.toEnd
  | _ => false

/-- the room of a pattern with what looks for it anywhere in a text -/
def size (room : CharSet → Nat) (d : Direction) (p : Pattern) : Nat :=
  let fixed := match d with
    | .forward => p.fromStart
    | .backward => p.toEnd
  p.sizeIn room d false + (if fixed then 32 else 112) + match d with
    | .forward => 96
    | .backward => 32

/-- ten mebibytes -/
def sizeLimit : Nat := 10 * Nat.pow 2 20

/-- the limit is exceeded in either direction -/
def exceeds (room : Direction → CharSet → Nat) (p : Pattern) : Bool :=
  sizeLimit < p.size (room .backward) .backward || sizeLimit < p.size (room .forward) .forward

/-- the rooms of sets are looked at only if their bounds do not do -/
def tooLarge (p : Pattern) : Bool := p.exceeds (fun _ => setBound) && p.exceeds setSize

end Pattern

end Rulebook.Regex
