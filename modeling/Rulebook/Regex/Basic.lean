import Rulebook.Regex.CharSet

/-!
# Patterns

Regular expressions over characters, with assertions about the place between two of them.  Flags
and abbreviations are resolved already: a pattern means the same wherever it stands.  Sequences and
alternatives nest to the right; `concat`, `choice`, `times` and `ofSet` build patterns in their
plainest form.
-/

namespace Rulebook.Regex

inductive Assertion where
  | textStart
  | textEnd
  /-- the start of a line; with `returns`, also a carriage return ends a line -/
  | lineStart (returns : Bool)
  | lineEnd (returns : Bool)
  /-- between a word and what is none -/
  | boundary (word : CharSet)
  | inside (word : CharSet)
  | wordStart (word : CharSet)
  | wordEnd (word : CharSet)
  /-- not after a word -/
  | wordStartHalf (word : CharSet)
  /-- not before a word -/
  | wordEndHalf (word : CharSet)
deriving DecidableEq, Repr

/-- what the characters before and after a place say about it -/
def Assertion.holds (a : Assertion) (before after : Option Char) : Bool :=
  match a with
  | textStart => before.isNone
  | textEnd => after.isNone
  | lineStart false => before.isNone || before == some '\n'
  | lineEnd false => after.isNone || after == some '\n'
  | lineStart true =>
    before.isNone || before == some '\n' || (before == some '\r' && after != some '\n')
  | lineEnd true =>
    after.isNone || after == some '\r' || (after == some '\n' && before != some '\r')
  | boundary w => before.any w.contains != after.any w.contains
  | inside w => before.any w.contains == after.any w.contains
  | wordStart w => !before.any w.contains && after.any w.contains
  | wordEnd w => before.any w.contains && !after.any w.contains
  | wordStartHalf w => !before.any w.contains
  | wordEndHalf w => !after.any w.contains

inductive Pattern where
  | empty
  /-- characters one after the other -/
  | literal (cs : List Char)
  | char (s : CharSet)
  | assertion (a : Assertion)
  /-- a group that is counted -/
  | group (p : Pattern)
  | seq (p q : Pattern)
  | alt (p q : Pattern)
  /-- at least `least` times and, if there is a bound, at most `most` times -/
  | repeated (p : Pattern) (least : Nat) (most : Option Nat)
deriving DecidableEq, Repr

namespace Pattern

/-! ## what patterns consume -/

/-- matches nothing but the empty text -/
def consumesNothing : Pattern → Bool
  | empty => true
  | literal cs => cs.isEmpty
  | char _ => false
  | assertion _ => true
  | group p => p.consumesNothing
  | seq p q => p.consumesNothing && q.consumesNothing
  | alt p q => p.consumesNothing && q.consumesNothing
  | repeated p _ _ => p.consumesNothing

/-- never matches the empty text -/
def alwaysConsumes : Pattern → Bool
  | empty => false
  | literal cs => !cs.isEmpty
  | char _ => true
  | assertion _ => false
  | group p => p.alwaysConsumes
  | seq p q => p.alwaysConsumes || q.alwaysConsumes
  | alt p q => p.alwaysConsumes && q.alwaysConsumes
  | repeated p least _ => 0 < least && p.alwaysConsumes

def hasGroup : Pattern → Bool
  | group _ => true
  | seq p q => p.hasGroup || q.hasGroup
  | alt p q => p.hasGroup || q.hasGroup
  | repeated p _ _ => p.hasGroup
  | _ => false

/-! ## single characters -/

/-- a set of one character is that character -/
def ofSet (s : CharSet) : Pattern :=
  match s.list with
  | [(low, high)] => if low = high then literal [Char.ofNat low] else char s
  | _ => char s

/-! ## sequences -/

/-- the pieces of a sequence -/
def pieces : Pattern → List Pattern
  | empty => []
  | seq p q => p :: q.pieces
  | p => [p]

/-- a piece in front of others; literals next to each other are one -/
def prepend (p : Pattern) (ps : List Pattern) : List Pattern :=
  match p, ps with
  | literal cs, literal ds :: rest => literal (cs ++ ds) :: rest
  | _, _ => p :: ps

/-- the sequence of some pieces, which are no sequences -/
def seqOf : List Pattern → Pattern
  | [] => empty
  | [p] => p
  | p :: ps => seq p (seqOf ps)

def concat (ps : List Pattern) : Pattern := seqOf ((ps.flatMap pieces).foldr prepend [])

/-! ## alternatives -/

def choices : Pattern → List Pattern
  | alt p q => p :: q.choices
  | p => [p]

/-- the alternatives of a list; there is at least one -/
def altOf : List Pattern → Pattern
  | [] => empty
  | [p] => p
  | p :: ps => alt p (altOf ps)

def asChar? : Pattern → Option CharSet
  | literal [c] => some (.single c)
  | _ => none

def asSet? : Pattern → Option CharSet
  | char s => some s
  | _ => none

/-- alternatives that are all single characters, or all sets, are one set -/
def setOrAlt (ps : List Pattern) : Pattern :=
  match ps with
  | [p] => p
  | _ =>
    match ps.mapM asChar? <|> ps.mapM asSet? with
    | some sets => ofSet (.unions sets)
    | none => altOf ps

/-- the pieces that two sequences begin with; a group is like no other -/
def commonPieces : List Pattern → List Pattern → List Pattern
  | p :: ps, q :: qs => if p = q && !p.hasGroup then p :: commonPieces ps qs else []
  | _, _ => []

def isSeq : Pattern → Bool
  | seq _ _ => true
  | _ => false

/-- the pieces that all sequences of a list begin with -/
def commonStart : List Pattern → List Pattern
  | [] => []
  | p :: ps =>
    if p.isSeq && ps.all isSeq then ps.foldl (fun common q => commonPieces common q.pieces) p.pieces
    else []

/-- alternatives, of which what all of them begin with is written once -/
def choice (ps : List Pattern) : Pattern :=
  let ps := ps.flatMap choices
  match setOrAlt ps with
  | alt p q =>
    match commonStart ps with
    | [] => alt p q
    | common =>
      let rests := ps.map fun p => concat (p.pieces.drop common.length)
      concat (common ++ [setOrAlt (rests.flatMap choices)])
  | whole => whole

/-! ## repetition -/

/-- a pattern that consumes nothing need not be repeated more than once -/
def times (p : Pattern) (least : Nat) (most : Option Nat) : Pattern :=
  let (least, most) :=
    if p.consumesNothing then (min least 1, some (min (most.getD 1) 1)) else (least, most)
  if most = some 0 then empty
  else if least = 1 && most = some 1 then p
  else repeated p least most

end Pattern

end Rulebook.Regex
