import Rulebook.Text.Ranges
import Rulebook.Xml.Token

/-!
# Character data

References are replaced by what they stand for, and line ends become line feeds; in attribute
values every space character becomes a space.  Characters that come from references are kept as
they are, and so is the character right after one in text.
-/

namespace Rulebook.Xml

open Text

/-! ## references -/

private def digitsIn (base : Nat) : Scan Nat := do
  let digits ← Scan.takeWhile1 fun c => (hexDigit? c).any (· < base)
  let n := digits.foldl (fun n c => base * n + (hexDigit? c).getD 0) 0
  guard (n < UInt32.size)
  return n

/-- the character with a number; numbers of no character stand for the replacement character -/
private def numbered (n : Nat) : Char :=
  if n.isValidChar then Char.ofNat n else '\ufffd'

/-- a reference after its ampersand: a character number or one of the five names -/
def reference : Scan Char := do
  let c ← Scan.first [
    (do
      Scan.text "#x"
      let n ← digitsIn 16
      guard (isAllowed (numbered n))
      return numbered n),
    (do
      Scan.char '#'
      let n ← digitsIn 10
      guard (isAllowed (numbered n))
      return numbered n),
    (do
      match ← plainName with
      | "quot" => return '"'
      | "amp" => return '&'
      | "apos" => return '\''
      | "lt" => return '<'
      | "gt" => return '>'
      | _ => failure)]
  Scan.char ';'
  return c

/-- a character of the source, and whether it comes from a reference -/
structure Piece where
  char : Char
  referred : Bool

/-- the pieces of raw text, if all its references can be replaced -/
def pieces? (cs : List Char) : Option (List Piece) :=
  match cs with
  | [] => some []
  | '&' :: rest =>
    match reference rest with
    | none => none
    | some (c, rest') =>
      if rest'.length ≤ rest.length then (pieces? rest').map (⟨c, true⟩ :: ·) else none
  | c :: rest => (pieces? rest).map (⟨c, false⟩ :: ·)
termination_by cs.length

/-! ## line ends -/

/-- one more character of text, the ones before it in reverse: a carriage return becomes a line
feed when the next character or the end is known -/
def pushText (before : List Char) (c : Char) (atEnd : Bool) : List Char :=
  let c' := if atEnd && c == '\r' then '\n' else c
  match before with
  | '\r' :: before => if c == '\n' then '\n' :: before else c' :: '\n' :: before
  | _ => c' :: before

/-- text with its line ends normalized; `kept` says that the next character stays as it is -/
def textFrom (before : List Char) (kept : Bool) : List Piece → List Char
  | [] => before.reverse
  | p :: ps =>
    if p.referred then textFrom (p.char :: before) true ps
    else if kept then textFrom (p.char :: before) false ps
    else textFrom (pushText before p.char ps.isEmpty) false ps

def text? (raw : List Char) : Option String :=
  (pieces? raw).map fun ps => String.ofList (textFrom [] false ps)

/-- a section without references -/
def sectionText (raw : List Char) : String :=
  String.ofList (textFrom [] false (raw.map (⟨·, false⟩)))

/-- a line end, however written, and a tab become a space each -/
def valueFrom : List Piece → List Char
  | [] => []
  | p :: ps =>
    if p.referred then p.char :: valueFrom ps
    else
      let beforeLineFeed := match ps with
        | q :: _ => !q.referred && q.char == '\n'
        | [] => false
      if p.char == '\r' && beforeLineFeed then valueFrom ps
      else (if isSpace p.char then ' ' else p.char) :: valueFrom ps

def value? (raw : List Char) : Option String :=
  (pieces? raw).map fun ps => String.ofList (valueFrom ps)

end Rulebook.Xml
