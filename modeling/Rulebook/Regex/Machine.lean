import Rulebook.Regex.Basic

/-!
# Machines

A pattern is laid out as instructions, each of which names those that go on.  A machine runs along
a text and keeps, at each place, the instructions that some way from the start has come to; so the
time for a character is bounded by the number of instructions, whatever the pattern.
-/

namespace Rulebook.Regex

inductive Instruction where
  /-- takes a character of the set -/
  | take (s : CharSet) (next : Nat)
  /-- goes on where the assertion holds -/
  | check (a : Assertion) (next : Nat)
  | branch (one other : Nat)
  | accept
deriving Repr

abbrev Code := Array Instruction

structure Machine where
  code : Code
  start : Nat

/-! ## laying out -/

/-- code behind an instruction that is entered first -/
def emit (i : Instruction) (code : Code) : Nat × Code := (code.size, code.push i)

/-- The code for a pattern, put in front of what is entered at the given instruction.  The result
is entered at its first part. -/
def Pattern.layOut : Pattern → Nat × Code → Nat × Code
  | empty, rest => rest
  | literal cs, rest => cs.foldr (fun c (next, code) => emit (.take (.single c) next) code) rest
  | char s, (next, code) => emit (.take s next) code
  | assertion a, (next, code) => emit (.check a next) code
  | group p, rest => p.layOut rest
  | seq p q, rest => p.layOut (q.layOut rest)
  | alt p q, (next, code) =>
    let (other, code) := q.layOut (next, code)
    let (one, code) := p.layOut (next, code)
    emit (.branch one other) code
  | repeated p least most, (next, code) =>
    match most with
    | none =>
      let loop := code.size
      let (body, code) := p.layOut (loop, code.push (.branch loop next))
      let code := code.setIfInBounds loop (.branch body next)
      if least = 0 then (loop, code) else Nat.repeat p.layOut (least - 1) (body, code)
    | some most =>
      let behind := Nat.repeat (fun rest =>
        let (one, code) := p.layOut rest
        emit (.branch one next) code) (most - least) (next, code)
      Nat.repeat p.layOut least behind

def Pattern.machine (p : Pattern) : Machine :=
  let (start, code) := p.layOut (emit .accept #[])
  ⟨code, start⟩

/-! ## running -/

namespace Machine

/-- what is known at a place once every way to it was followed -/
inductive Front where
  | accepted
  /-- the instructions that go on behind the next character, and the marks of those reached: an
  instruction is marked with the place it was reached at last -/
  | open (next : List Nat) (marks : Array Nat)

/-- follows the instructions of `todo`, and those that they lead to without a character.  Each
instruction is followed once at a place, so that `fuel` is enough if it is the number of entries in
`todo` and two for each instruction. -/
def follow (code : Code) (place : Nat) (before after : Option Char) :
    (fuel : Nat) → (todo next : List Nat) → (marks : Array Nat) → Front
  | 0, _, next, marks => .open next marks
  | _, [], next, marks => .open next marks
  | fuel + 1, i :: todo, next, marks =>
    if marks[i]? == some place then follow code place before after fuel todo next marks
    else
      let marks := marks.setIfInBounds i place
      match code[i]? with
      | none => follow code place before after fuel todo next marks
      | some .accept => .accepted
      | some (.branch one other) =>
        follow code place before after fuel (one :: other :: todo) next marks
      | some (.check a target) =>
        if a.holds before after then
          follow code place before after fuel (target :: todo) next marks
        else follow code place before after fuel todo next marks
      | some (.take s target) =>
        if after.any s.contains then
          follow code place before after fuel todo (target :: next) marks
        else follow code place before after fuel todo next marks

/-- all that is reached at a place; a match may begin there, and some instructions were reached -/
def front (m : Machine) (place : Nat) (before after : Option Char) (reached : List Nat)
    (marks : Array Nat) : Front :=
  let todo := m.start :: reached
  follow m.code place before after (2 * m.code.size + todo.length) todo [] marks

/-- runs along a text from a place with the character before it -/
def runFrom (m : Machine) (place : Nat) (before : Option Char) (reached : List Nat)
    (marks : Array Nat) : List Char → Bool
  | [] =>
    match m.front place before none reached marks with
    | .accepted => true
    | .open _ _ => false
  | c :: cs =>
    match m.front place before (some c) reached marks with
    | .accepted => true
    | .open next marks => m.runFrom (place + 1) (some c) next marks cs

/-- some part of a text matches -/
def matchesIn (m : Machine) (text : String) : Bool :=
  m.runFrom 1 none [] (Array.replicate m.code.size 0) text.toList

end Machine

end Rulebook.Regex
