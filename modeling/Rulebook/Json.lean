import Rulebook.Text.Ranges
import Rulebook.Text.Scan

/-!
# JSON

Reading JSON texts as far as settings need it: of numbers only the natural ones written without
sign, fraction or exponent are kept, and a string with half of a surrogate pair has no text.
-/

namespace Rulebook

open Text

inductive JsonValue where
  | null
  | bool (b : Bool)
  | number (natural : Option Nat)
  | string (text : Option String)
  | array (items : List JsonValue)
  | object (fields : List (Option String × JsonValue))

namespace JsonValue

/-! ## strings -/

def isLow (n : Nat) : Bool := 0xDC00 ≤ n && n < 0xE000

def isHigh (n : Nat) : Bool := 0xD800 ≤ n && n < 0xDC00

/-- the characters of code points, of which surrogates must come in pairs -/
def combine : List Nat → Option (List Char)
  | [] => some []
  | n :: rest =>
    if isHigh n then
      match rest with
      | m :: rest =>
        if isLow m then
          (combine rest).map (Char.ofNat (0x10000 + (n - 0xD800) * 0x400 + (m - 0xDC00)) :: ·)
        else none
      | [] => none
    else if isLow n then none
    else (combine rest).map (Char.ofNat n :: ·)

def hexDigit : Scan Nat := do
  let c ← Scan.satisfy fun c => (hexDigit? c).isSome
  hexDigit? c

/-- what follows a backslash -/
def escape : Scan Nat := do
  match ← Scan.satisfy fun _ => true with
  | '"' => return 0x22
  | '\\' => return 0x5C
  | '/' => return 0x2F
  | 'b' => return 8
  | 'f' => return 12
  | 'n' => return 10
  | 'r' => return 13
  | 't' => return 9
  | 'u' =>
    let a ← hexDigit
    let b ← hexDigit
    let c ← hexDigit
    let d ← hexDigit
    return ((a * 16 + b) * 16 + c) * 16 + d
  | _ => failure

/-- one code point of a string -/
def stringChar : Scan Nat := do
  let c ← Scan.satisfy fun c => c != '"' && 0x20 ≤ c.toNat
  if c == '\\' then escape else return c.toNat

def stringBody : Scan (Option String) := do
  Scan.char '"'
  let ns ← Scan.many stringChar
  Scan.char '"'
  return (combine ns).map String.ofList

/-! ## numbers -/

def wholePart : Scan (List Char) := fun cs =>
  match cs with
  | '0' :: rest => some (['0'], rest)
  | _ => Scan.takeWhile1 Char.isDigit cs

def fractionPart : Scan Unit := do
  Scan.char '.'
  let _ ← Scan.takeWhile1 Char.isDigit

def exponentPart : Scan Unit := do
  let _ ← Scan.satisfy fun c => c == 'e' || c == 'E'
  let _ ← Scan.optional? (Scan.satisfy fun c => c == '+' || c == '-')
  let _ ← Scan.takeWhile1 Char.isDigit

def numeral : Scan (Option Nat) := do
  let sign ← Scan.optional? (Scan.char '-')
  let whole ← wholePart
  let fraction ← Scan.optional? fractionPart
  let exponent ← Scan.optional? exponentPart
  return if sign.isNone && fraction.isNone && exponent.isNone then
      some (whole.foldl (fun n c => 10 * n + (c.toNat - 48)) 0)
    else none

/-! ## values -/

def blanks : Scan Unit := do
  let _ ← Scan.takeWhile fun c => c == ' ' || c == '\n' || c == '\t' || c == '\r'

/-- a token with the blanks behind it -/
def token {α : Type} (p : Scan α) : Scan α := do
  let a ← p
  blanks
  return a

/-- a field name and the value after the colon -/
def field (value : Scan JsonValue) : Scan (Option String × JsonValue) := do
  let name ← token stringBody
  token (Scan.char ':')
  return (name, ← value)

/-- a value in which arrays and objects hold `inner` values -/
def valueOf (inner : Scan JsonValue) : Scan JsonValue :=
  let comma := token (Scan.char ',')
  Scan.first [
    token (Scan.text "null") *> pure null,
    token (Scan.text "true") *> pure (bool true),
    token (Scan.text "false") *> pure (bool false),
    number <$> token numeral,
    string <$> token stringBody,
    array <$> (token (Scan.char '[') *> Scan.sepBy comma inner <* token (Scan.char ']')),
    object <$> (token (Scan.char '{') *> Scan.sepBy comma (field inner) <* token (Scan.char '}'))]

/-- a value with at most so many levels -/
def valueWithin : Nat → Scan JsonValue
  | 0 => failure
  | n + 1 => valueOf (valueWithin n)

/-- the value of a whole text -/
def parse? (s : String) : Option JsonValue :=
  Scan.all? (blanks *> valueWithin (s.length + 1)) s.toList

end JsonValue

end Rulebook
