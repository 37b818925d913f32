import Rulebook.Regex.Basic
import Rulebook.Text.Alphabet

/-!
# Reading patterns

The text of a pattern is read from the left.  Flags are state: `(?i)` changes them up to the end of
the group it stands in, across alternatives.  With the flag `x` blanks and comments do not count
outside classes and inside them.  Groups, repetitions, classes and lists of more than one member
may nest up to `nestLimit`.
-/

namespace Rulebook.Regex

open Text

/-! ## flags and errors -/

structure Flags where
  /-- `i` -/
  ignoreCase : Bool
  /-- `s`: the dot matches line ends too -/
  dotAll : Bool
  /-- `m`: `^` and `$` are about lines -/
  multiLine : Bool
  /-- `x`: blanks and comments do not count -/
  extended : Bool
  /-- `u`: classes are about all characters, not only those of ASCII -/
  unicode : Bool
  /-- `R`: a carriage return ends a line too -/
  returns : Bool
deriving DecidableEq, Repr

def Flags.standard : Flags := ⟨false, false, false, false, true, false⟩

inductive SyntaxError where
  | unclosedGroup
  | unopenedGroup
  | unclosedClass
  | lookAround
  | nothingToRepeat
  | badCount
  | badEscape
  | backReference
  | badFlags
  | badGroupName
  | badCodePoint
  | badRange
  | unknownProperty
  | notUnicode
  | tooDeep
deriving DecidableEq, Repr

def SyntaxError.message : SyntaxError → String
  | unclosedGroup => "unclosed group"
  | unopenedGroup => "unopened group"
  | unclosedClass => "unclosed character class"
  | lookAround => "look-around is not supported"
  | nothingToRepeat => "repetition operator missing expression"
  | badCount => "invalid repetition count"
  | badEscape => "invalid escape sequence"
  | backReference => "backreferences are not supported"
  | badFlags => "invalid flags"
  | badGroupName => "invalid capture group name"
  | badCodePoint => "invalid code point"
  | badRange => "invalid character class range"
  | unknownProperty => "Unicode property not found"
  | notUnicode => "pattern can match invalid text"
  | tooDeep => "pattern is nested too deeply"

/-! ## the reader -/

structure Reader where
  rest : List Char
  flags : Flags
  /-- the names of groups so far -/
  names : List (List Char)

abbrev Reading := StateT Reader (Except SyntaxError)

/-- drops blanks, and comments from `#` to the end of the line; `inside` a comment or not -/
def dropBlanks (inside : Bool) : List Char → List Char
  | [] => []
  | c :: cs =>
    if inside then dropBlanks (c != '\n') cs
    else if isBlank c then dropBlanks false cs
    else if c == '#' then dropBlanks true cs
    else c :: cs

/-- what is left, blanks that do not count dropped -/
def Reader.significant (r : Reader) : List Char :=
  if r.flags.extended then dropBlanks false r.rest else r.rest

def rest : Reading (List Char) := return (← get).rest

def moveTo (cs : List Char) : Reading Unit := modify fun r => { r with rest := cs }

/-- drops blanks where they do not count -/
def skipBlanks : Reading Unit := modify fun r => { r with rest := r.significant }

/-- the next character, which is taken with the blanks behind it -/
def next (e : SyntaxError) : Reading Char := do
  match ← rest with
  | c :: cs =>
    moveTo cs
    skipBlanks
    return c
  | [] => throw e

/-- reads one character if it comes next -/
def nextIs (c : Char) : Reading Bool := do
  match ← rest with
  | d :: cs =>
    if d == c then
      moveTo cs
      return true
    else return false
  | [] => return false

/-! ## nesting -/

/-- how deep parts of a pattern may nest -/
def nestLimit : Nat := 250

/-- one level above some others -/
def deeper (depth : Nat) : Reading Nat :=
  if depth < nestLimit then return depth + 1 else throw .tooDeep

/-- one level above the members of a list, unless it has but one -/
def above (depths : List Nat) : Reading Nat :=
  match depths with
  | [] => return 0
  | [d] => return d
  | ds => deeper (ds.foldl max 0)

/-! ## sets -/

/-- with its flags, a set as it stands in a pattern -/
def Flags.folded (f : Flags) (s : CharSet) : CharSet := if f.ignoreCase then s.fold f.unicode else s

/-- the complement of a set, which without `u` may not leave ASCII -/
def complement (negated : Bool) (s : CharSet) : Reading CharSet := do
  if !negated then return s
  if (← get).flags.unicode then return s.compl
  throw .notUnicode

def literal (c : Char) : Reading Pattern := do
  let f := (← get).flags
  return if f.ignoreCase then .ofSet (.ofChars (CharSet.variants f.unicode c)) else .literal [c]

/-! ## escapes -/

/-- what an escape stands for -/
inductive Escaped where
  | char (c : Char)
  | set (s : CharSet)
  | assertion (a : Assertion)

def hexValue (cs : List Char) : Nat := cs.foldl (fun n c => 16 * n + (hexDigit? c).getD 0) 0

/-- the character with a number -/
def codePoint (n : Nat) : Reading Char :=
  if n < 0xD800 || (0xE000 ≤ n && n < 0x110000) then return Char.ofNat n else throw .badCodePoint

/-- as many hexadecimal digits as given -/
def hexDigits : Nat → Reading (List Char)
  | 0 => return []
  | n + 1 => do
    let c ← next .badEscape
    if (hexDigit? c).isNone then throw .badEscape
    return c :: (← hexDigits n)

/-- characters up to a closing brace, which is read too -/
def untilBrace (e : SyntaxError) : Nat → Reading (List Char)
  | 0 => throw e
  | n + 1 => do
    match ← next e with
    | '\x7d' => return []
    | c => return c :: (← untilBrace e n)

/-- a character by its number; two digits stand for a byte where characters are not meant -/
def hexEscape (digits : Nat) : Reading Escaped := do
  skipBlanks
  match ← rest with
  | '\x7b' :: cs =>
    moveTo cs
    skipBlanks
    let ds ← untilBrace .badEscape (cs.length + 1)
    if ds.isEmpty || ds.any fun c => (hexDigit? c).isNone then throw .badEscape
    return .char (← codePoint (hexValue ds))
  | _ =>
    let n := hexValue (← hexDigits digits)
    if digits == 2 && 0x80 ≤ n && !(← get).flags.unicode then throw .notUnicode
    return .char (← codePoint n)

/-- the parts before and after the first `c` -/
def splitOnce (c : Char) (cs : List Char) : Option (List Char × List Char) :=
  match cs.dropWhile (· != c) with
  | _ :: rest => some (cs.takeWhile (· != c), rest)
  | [] => none

/-- a property by its name, or by a name and a value with `=`, `:` or `!=` between them -/
def property (cs : List Char) : Except SyntaxError (CharSet × Bool) :=
  let text := String.ofList
  let found : Option CharSet × Bool :=
    match splitOnce '=' cs, splitOnce ':' cs with
    | some (key, value), none =>
      match key.reverse with
      | '!' :: key => (CharSet.valued? (text key.reverse) (text value), true)
      | _ => (CharSet.valued? (text key) (text value), false)
    | _, some (key, value) => (CharSet.valued? (text key) (text value), false)
    | none, none => (CharSet.named? (text cs), false)
  match found with
  | (some s, negated) => .ok (s, negated)
  | (none, _) => .error .unknownProperty

def propertyEscape (negated : Bool) : Reading Escaped := do
  skipBlanks
  let name ← match ← rest with
    | [] => throw .badEscape
    | '\x7b' :: cs =>
      moveTo cs
      skipBlanks
      untilBrace .badEscape (cs.length + 1)
    | '\\' :: _ => throw .badEscape
    | c :: cs =>
      moveTo cs
      skipBlanks
      pure [c]
  unless (← get).flags.unicode do throw .notUnicode
  let (s, swapped) ← property name
  return .set (← complement (negated != swapped) ((← get).flags.folded s))

/-- the boundary that is named in braces after `\b`; without a name there the braces count -/
def namedBoundary? (word : CharSet) : Reading (Option Assertion) := do
  let isNameChar := fun (c : Char) => c.isAlpha || c == '-'
  let start ← rest
  match start with
  | '\x7b' :: cs =>
    moveTo cs
    skipBlanks
    match ← rest with
    | [] => throw .badEscape
    | c :: more =>
      if !isNameChar c then
        moveTo start
        return none
      let name ← untilBrace .badEscape (more.length + 2)
      match String.ofList name with
      | "start" => return some (.wordStart word)
      | "end" => return some (.wordEnd word)
      | "start-half" => return some (.wordStartHalf word)
      | "end-half" => return some (.wordEndHalf word)
      | _ => throw .badEscape
  | _ => return none

/-- what follows a backslash -/
def escape : Reading Escaped := do
  let unicode := (← get).flags.unicode
  let word := CharSet.word unicode
  match ← rest with
  | [] => throw .badEscape
  | c :: cs =>
    moveTo cs
    match c with
    | 'x' => hexEscape 2
    | 'u' => hexEscape 4
    | 'U' => hexEscape 8
    | 'p' => propertyEscape false
    | 'P' => propertyEscape true
    | 'd' => return .set (.digit unicode)
    | 'D' => return .set (← complement true (.digit unicode))
    | 's' => return .set (.space unicode)
    | 'S' => return .set (← complement true (.space unicode))
    | 'w' => return .set word
    | 'W' => return .set (← complement true word)
    | 'a' => return .char '\x07'
    | 'f' => return .char '\x0c'
    | 't' => return .char '\t'
    | 'n' => return .char '\n'
    | 'r' => return .char '\r'
    | 'v' => return .char '\x0b'
    | 'A' => return .assertion .textStart
    | 'z' => return .assertion .textEnd
    | 'b' => return .assertion ((← namedBoundary? word).getD (.boundary word))
    | 'B' => return .assertion (.inside word)
    | '<' => return .assertion (.wordStart word)
    | '>' => return .assertion (.wordEnd word)
    | _ =>
      if c.isDigit then throw .backReference
      else if c.toNat < 128 && !c.isAlpha then return .char c
      else throw .badEscape

/-! ## classes -/

/-- one member of a class, or an end of a range -/
def classItem : Reading Escaped := do
  match ← rest with
  | [] => throw .unclosedClass
  | '\\' :: cs =>
    moveTo cs
    escape
  | c :: cs =>
    moveTo cs
    return .char c

/-- a member that is a single character -/
def rangeEnd : Escaped → Reading Char
  | .char c => return c
  | _ => throw .badRange

/-- the member itself; assertions are none -/
def member : Escaped → Reading CharSet
  | .char c => do
    if !(← get).flags.unicode && 128 ≤ c.toNat then throw .notUnicode
    return .single c
  | .set s => return s
  | .assertion _ => throw .badEscape

/-- the character behind a hyphen; of a comment between them just the sign is passed over -/
def Reader.ahead (r : Reader) (cs : List Char) : Option Char :=
  if r.flags.extended then
    match cs.dropWhile isBlank with
    | '#' :: more => (more.dropWhile isBlank).head?
    | more => more.head?
  else cs.head?

/-- a member or a range of a class -/
def classRange : Reading CharSet := do
  let first ← classItem
  skipBlanks
  match ← rest with
  | [] => throw .unclosedClass
  | '-' :: cs =>
    let ahead := (← get).ahead cs
    if ahead == some ']' || ahead == some '-' then return ← member first
    moveTo cs
    skipBlanks
    let last ← classItem
    let low ← rangeEnd first
    let high ← rangeEnd last
    if high < low then throw .badRange
    discard (member last)
    return .range low high
  | _ => member first

/-- a class in a class such as `[:alpha:]`, with its name -/
def posixClass? (cs : List Char) : Option (CharSet × Bool × List Char) :=
  match cs with
  | '[' :: ':' :: cs =>
    let (negated, cs) := match cs with
      | '^' :: cs => (true, cs)
      | _ => (false, cs)
    match splitOnce ':' cs with
    | some (name, ']' :: rest) =>
      (CharSet.posix? (String.ofList name)).map fun s => (s, negated, rest)
    | _ => none
  | _ => none

/-- a set and how deep it nests -/
structure ClassPart where
  set : CharSet
  depth : Nat

def ClassPart.plain (s : CharSet) : ClassPart := ⟨s, 0⟩

/-- what a class has of any of its members -/
def allOf (members : List ClassPart) : Reading ClassPart :=
  return ⟨.unions (members.map (·.set)), ← above (members.map (·.depth))⟩

/-- the hyphens that a class begins with -/
def leadingHyphens : Nat → Reading (List ClassPart)
  | 0 => return []
  | n + 1 => do
    match ← rest with
    | '-' :: cs =>
      moveTo cs
      skipBlanks
      return .plain (.single '-') :: (← leadingHyphens n)
    | _ => return []

/-- the beginning of a class: a negation, then hyphens or one bracket that stand for themselves -/
def classOpening : Reading (Bool × List ClassPart) := do
  let _ ← next .unclosedClass
  let negated ← nextIs '^'
  skipBlanks
  match ← rest with
  | [] => throw .unclosedClass
  | ']' :: cs =>
    moveTo cs
    skipBlanks
    return (negated, [.plain (.single ']')])
  | cs => return (negated, ← leadingHyphens cs.length)

/-- an operator between sets -/
def setOperator? : List Char → Option ((CharSet → CharSet → CharSet) × List Char)
  | '&' :: '&' :: cs => some (.inter, cs)
  | '-' :: '-' :: cs => some (.diff, cs)
  | '~' :: '~' :: cs => some (.symmDiff, cs)
  | _ => none

/-- The rest of a class up to its bracket.  `left` makes of what stands right of the last operator
the whole, `members` are what was read of that, and `levels` bounds the classes inside. -/
def classBody : Nat → Nat → (ClassPart → Reading ClassPart) → List ClassPart → Reading ClassPart
  | 0, _, _, _ => throw .unclosedClass
  | n + 1, levels, left, members => do
    skipBlanks
    let fold := (← get).flags.folded
    match ← rest with
    | [] => throw .unclosedClass
    | ']' :: cs =>
      moveTo cs
      left (← allOf members)
    | '[' :: cs =>
      match posixClass? ('[' :: cs), levels with
      | some (s, negated, behind), _ =>
        moveTo behind
        classBody n levels left (.plain (← complement negated (fold s)) :: members)
      | none, 0 => throw .tooDeep
      | none, levels + 1 =>
        let (negated, opening) ← classOpening
        let inner ← classBody n levels pure opening
        let s ← complement negated (fold inner.set)
        classBody n (levels + 1) left (⟨s, ← deeper inner.depth⟩ :: members)
    | cs =>
      match setOperator? cs with
      | some (op, behind) =>
        moveTo behind
        let whole ← left (← allOf members)
        let combined := fun (right : ClassPart) => do
          return ⟨op (fold whole.set) (fold right.set), ← deeper (max whole.depth right.depth)⟩
        classBody n levels combined []
      | none => classBody n levels left (.plain (← classRange) :: members)

/-- a class in brackets -/
def bracketed : Reading ClassPart := do
  let fuel := (← rest).length + 1
  let (negated, opening) ← classOpening
  let body ← classBody fuel nestLimit pure opening
  return ⟨← complement negated ((← get).flags.folded body.set), ← deeper body.depth⟩

/-! ## counts -/

/-- digits, and what is dropped behind each of them -/
def countDigits : Nat → Reading (List Char)
  | 0 => return []
  | n + 1 => do
    match ← rest with
    | c :: cs =>
      if !c.isDigit then return []
      moveTo cs
      skipBlanks
      return c :: (← countDigits n)
    | [] => return []

/-- a number with blanks around it -/
def count? : Reading (Option Nat) := do
  let cs := (← rest).dropWhile isBlank
  moveTo cs
  let digits ← countDigits cs.length
  moveTo ((← rest).dropWhile isBlank)
  skipBlanks
  if digits.isEmpty then return none
  let n := digits.foldl (fun n c => 10 * n + (c.toNat - 48)) 0
  if n < UInt32.size then return some n else throw .badCount

/-- a number that must be there -/
def count : Reading Nat := do
  match ← count? with
  | some n => return n
  | none => throw .badCount

/-- the bounds of a repetition, behind the opening brace -/
def bounds : Reading (Nat × Option Nat) := do
  skipBlanks
  if (← rest).isEmpty then throw .badCount
  let least ← count?
  let limits ← if ← nextIs ',' then do
      skipBlanks
      match ← rest, least with
      | '\x7d' :: _, some n => pure (n, none)
      | '\x7d' :: _, none => throw .badCount
      | _, none => throw .badCount
      | _, some n =>
        let most ← count
        if most < n then throw .badCount
        pure (n, some most)
    else match least with
      | some n => pure (n, some n)
      | none => throw .badCount
  unless ← nextIs '\x7d' do throw .badCount
  return limits

/-! ## groups -/

/-- one flag, set or cleared -/
def Flags.change (f : Flags) (c : Char) (on : Bool) : Option Flags :=
  match c with
  | 'i' => some { f with ignoreCase := on }
  | 's' => some { f with dotAll := on }
  | 'm' => some { f with multiLine := on }
  | 'x' => some { f with extended := on }
  | 'u' => some { f with unicode := on }
  | 'R' => some { f with returns := on }
  | 'U' => some f
  | _ => none

/-- flags up to `:` or `)`, each at most once; those after `-` are cleared -/
def flagList (f : Flags) (seen : List Char) : List Char → Except SyntaxError (Flags × List Char)
  | [] => .error .unclosedGroup
  | c :: cs =>
    if c == ':' || c == ')' then
      if seen.head? == some '-' then .error .badFlags else .ok (f, c :: cs)
    else if seen.contains c then .error .badFlags
    else if c == '-' then flagList f (c :: seen) cs
    else match f.change c (!seen.contains '-') with
      | some f => flagList f (c :: seen) cs
      | none => .error .badFlags

/-- the name of a group, up to `>` -/
def groupName : Reading Unit := do
  match splitOnce '>' (← rest) with
  | none => throw .badGroupName
  | some (name, behind) =>
    let continues := fun (c : Char) =>
      c == '_' || c == '.' || c == '[' || c == ']' || isAlphabetic c || isNumeric c
    let starts := fun (c : Char) => c == '_' || isAlphabetic c
    let wellFormed := match name with
      | c :: cs => starts c && cs.all continues
      | [] => false
    if !wellFormed || (← get).names.contains name then throw .badGroupName
    modify fun r => { r with rest := behind, names := name :: r.names }

/-- what stands behind an opening parenthesis -/
inductive Opening where
  | group (counted : Bool)
  /-- flags for what follows in the same group -/
  | flags

def opening : Reading Opening := do
  skipBlanks
  match ← rest with
  | '?' :: '=' :: _ => throw .lookAround
  | '?' :: '!' :: _ => throw .lookAround
  | '?' :: '<' :: '=' :: _ => throw .lookAround
  | '?' :: '<' :: '!' :: _ => throw .lookAround
  | '?' :: 'P' :: '<' :: cs =>
    moveTo cs
    groupName
    return .group true
  | '?' :: '<' :: cs =>
    moveTo cs
    groupName
    return .group true
  | '?' :: cs =>
    let (f, behind) ← flagList (← get).flags [] cs
    modify fun r => { r with flags := f, rest := behind.drop 1 }
    if behind.head? == some ')' then
      if cs.head? == some ')' then throw .nothingToRepeat
      return .flags
    return .group false
  | _ => return .group true

/-! ## patterns -/

/-- the dot -/
def dot : Reading Pattern := do
  let f := (← get).flags
  unless f.unicode do throw .notUnicode
  if f.dotAll then return .char .any
  else if f.returns then return .char (Text.Ranges.ofChars ['\n', '\r']).compl
  else return .char (Text.Ranges.single '\n').compl

def lineStart : Reading Pattern := do
  let f := (← get).flags
  return .assertion (if f.multiLine then .lineStart f.returns else .textStart)

def lineEnd : Reading Pattern := do
  let f := (← get).flags
  return .assertion (if f.multiLine then .lineEnd f.returns else .textEnd)

/-- a pattern of one character -/
def primitive : Char → Reading Pattern
  | '.' => dot
  | '^' => lineStart
  | '$' => lineEnd
  | '\\' => do
    match ← escape with
    | .char c => literal c
    | .set s => return .ofSet s
    | .assertion a => return .assertion a
  | c => literal c

/-- a pattern, if it is one and not flags, and how deep its text nests -/
structure Part where
  pattern : Option Pattern
  depth : Nat

/-- the parts of a branch, the last one first, in one -/
def branchOf (parts : List Part) : Reading Part :=
  return ⟨some (.concat (parts.reverse.filterMap (·.pattern))), ← above (parts.map (·.depth))⟩

/-- the branches of a group, the last one first, in one -/
def groupOf (branches : List Part) : Reading Part :=
  return ⟨some (.choice (branches.reverse.filterMap (·.pattern))), ← above (branches.map (·.depth))⟩

/-- the last part of a branch repeated; flags are no part to repeat -/
def repeatLast (branch : List Part) (least : Nat) (most : Option Nat) : Reading (List Part) :=
  match branch with
  | ⟨some p, depth⟩ :: parts => return ⟨some (p.times least most), ← deeper depth⟩ :: parts
  | _ => throw .nothingToRepeat

/-- Alternatives up to the end of the group or the text.  `done` and `branch` hold what was read,
the last first, and `levels` bounds the groups inside. -/
def alternatives : Nat → Nat → List Part → List Part → Reading Part
  | 0, _, _, _ => throw .unclosedGroup
  | n + 1, levels, done, branch => do
    skipBlanks
    match ← rest with
    | [] => groupOf ((← branchOf branch) :: done)
    | ')' :: _ => groupOf ((← branchOf branch) :: done)
    | '|' :: cs =>
      moveTo cs
      alternatives n levels ((← branchOf branch) :: done) []
    | '(' :: cs =>
      moveTo cs
      let outer := (← get).flags
      match ← opening, levels with
      | .flags, _ => alternatives n levels done (⟨none, 0⟩ :: branch)
      | .group _, 0 => throw .tooDeep
      | .group counted, levels + 1 =>
        let body ← alternatives n levels [] []
        unless ← nextIs ')' do throw .unclosedGroup
        modify fun r => { r with flags := outer }
        let pattern := if counted then body.pattern.map .group else body.pattern
        alternatives n (levels + 1) done (⟨pattern, ← deeper body.depth⟩ :: branch)
    | '[' :: _ =>
      let part ← bracketed
      alternatives n levels done (⟨some (.ofSet part.set), part.depth⟩ :: branch)
    | '*' :: cs => do
      moveTo cs
      let branch ← repeatLast branch 0 none
      let _ ← nextIs '?'
      alternatives n levels done branch
    | '+' :: cs => do
      moveTo cs
      let branch ← repeatLast branch 1 none
      let _ ← nextIs '?'
      alternatives n levels done branch
    | '?' :: cs => do
      moveTo cs
      let branch ← repeatLast branch 0 (some 1)
      let _ ← nextIs '?'
      alternatives n levels done branch
    | '\x7b' :: cs => do
      moveTo cs
      let _ ← repeatLast branch 0 none
      let (least, most) ← bounds
      skipBlanks
      let branch ← repeatLast branch least most
      let _ ← nextIs '?'
      alternatives n levels done branch
    | c :: cs => do
      moveTo cs
      alternatives n levels done (⟨some (← primitive c), 0⟩ :: branch)

/-- the pattern of a text -/
def Pattern.parse (flags : Flags) (source : String) : Except SyntaxError Pattern :=
  let cs := source.toList
  match (alternatives (cs.length + 2) nestLimit [] []).run ⟨cs, flags, []⟩ with
  | .ok (part, r) =>
    if r.rest.isEmpty then .ok (part.pattern.getD .empty) else .error .unopenedGroup
  | .error e => .error e

end Rulebook.Regex
