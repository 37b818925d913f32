/-!
# Reading a text from the left

A `Scan` reads a value off the front of a list of characters and leaves the rest, or fails and
leaves the choice to an alternative.  `many` goes on as long as its element reads at least one
character, so it ends on every input.
-/

namespace Rulebook.Text

abbrev Scan := StateT (List Char) Option

/-- what follows `start`, if the characters begin with it -/
def afterPrefix? : List Char → List Char → Option (List Char)
  | [], cs => some cs
  | _ :: _, [] => none
  | s :: start, c :: cs => if s == c then afterPrefix? start cs else none

namespace Scan

variable {α β : Type}

def satisfy (p : Char → Bool) : Scan Char
  | c :: cs => if p c then some (c, cs) else none
  | [] => none

def char (c : Char) : Scan Unit
  | d :: cs => if d == c then some ((), cs) else none
  | [] => none

/-- the given text, character by character -/
def text (s : String) : Scan Unit := fun cs =>
  (afterPrefix? s.toList cs).map fun rest => ((), rest)

def takeWhile (p : Char → Bool) : Scan (List Char) := fun cs =>
  some (cs.takeWhile p, cs.dropWhile p)

def takeWhile1 (p : Char → Bool) : Scan (List Char)
  | c :: cs => if p c then some (c :: cs.takeWhile p, cs.dropWhile p) else none
  | [] => none

/-- succeeds where `p` would, and reads nothing -/
def lookAhead (p : Scan α) : Scan Unit := fun cs => (p cs).map fun _ => ((), cs)

/-- succeeds where `p` would not, and reads nothing -/
def notFollowedBy (p : Scan α) : Scan Unit := fun cs =>
  if (p cs).isSome then none else some ((), cs)

/-- reads `p` if it is there -/
def optional? (p : Scan α) : Scan (Option α) := fun cs =>
  match p cs with
  | some (a, rest) => some (some a, rest)
  | none => some (none, cs)

/-- what `p` reads again and again, and the rest -/
def collect (p : Scan α) (cs : List Char) : List α × List Char :=
  match p cs with
  | some (a, rest) =>
    if rest.length < cs.length then
      let more := collect p rest
      (a :: more.1, more.2)
    else ([], cs)
  | none => ([], cs)
termination_by cs.length

def many (p : Scan α) : Scan (List α) := fun cs => some (collect p cs)

/-- one `p` or more, with `sep` between them -/
def sepBy1 (sep : Scan β) (p : Scan α) : Scan (List α) := do
  let first ← p
  let others ← many (sep *> p)
  return first :: others

/-- like `sepBy1`, or none at all -/
def sepBy (sep : Scan β) (p : Scan α) : Scan (List α) := sepBy1 sep p <|> pure []

/-- the first of the alternatives that succeeds -/
def first (ps : List (Scan α)) : Scan α := ps.foldr (· <|> ·) failure

/-- the value beside the first of the scans that succeeds -/
def choose (ps : List (Scan Unit × α)) : Scan α := first (ps.map fun (p, a) => p *> pure a)

/-- the value read off a whole text -/
def all? (p : Scan α) (cs : List Char) : Option α :=
  match p cs with
  | some (a, []) => some a
  | _ => none

/-! ## repetition -/

theorem collect_of_none {p : Scan α} {cs : List Char} (h : p cs = none) : collect p cs = ([], cs) := by
  rw [collect, h]

theorem collect_of_some {p : Scan α} {cs rest : List Char} {a : α} (h : p cs = some (a, rest))
    (hlt : rest.length < cs.length) :
    collect p cs = (a :: (collect p rest).1, (collect p rest).2) := by
  rw [collect, h]
  simp [hlt]

theorem collect_of_not_lt {p : Scan α} {cs rest : List Char} {a : α} (h : p cs = some (a, rest))
    (hlt : ¬ rest.length < cs.length) : collect p cs = ([], cs) := by
  rw [collect, h]
  simp [hlt]

end Scan

end Rulebook.Text
