import Rulebook.Text.Blank
import Rulebook.Text.Scan
import Rulebook.Time.Instant

/-!
# Instants as text

Written is the profile of RFC 3339 with a numeric offset and no, three, six or nine decimals of a
second.  Read are, after trimming: that profile, a date and time without zone, which is UTC, and a
date alone or with `Z`, which is midnight UTC.  The forms without zone allow blanks before each
number, fewer digits, and years with a sign.
-/

namespace Rulebook.Time

open Text

/-! ## writing -/

/-- at least `width` digits -/
def padded (width n : Nat) : String :=
  let digits := toString n
  String.ofList (List.replicate (width - digits.length) '0') ++ digits

/-- years outside four digits carry a sign -/
def yearText (year : Int) : String :=
  if 0 ≤ year && year ≤ 9999 then padded 4 year.toNat
  else (if year < 0 then "-" else "+") ++ padded 4 year.natAbs

/-- the fraction in thousandths, millionths or billionths, nothing for zero -/
def fractionText (nanos : Nat) : String :=
  if nanos == 0 then ""
  else if nanos % 1000000 == 0 then "." ++ padded 3 (nanos / 1000000)
  else if nanos % 1000 == 0 then "." ++ padded 6 (nanos / 1000)
  else "." ++ padded 9 nanos

/-- the offset in hours and minutes -/
def offsetText (offset : Int) : String :=
  let minutes := (offset.natAbs + 30) / 60
  (if offset < 0 then "-" else "+") ++ padded 2 (minutes / 60) ++ ":" ++ padded 2 (minutes % 60)

def Instant.format (t : Instant) : String :=
  let date := Date.ofDay t.day
  let leap := 1000000000 ≤ t.nanos
  let second := t.secondOfDay % 60 + (if leap then 1 else 0)
  yearText date.year ++ "-" ++ padded 2 date.month ++ "-" ++ padded 2 date.day ++ "T" ++
    padded 2 (t.secondOfDay / 3600) ++ ":" ++ padded 2 (t.secondOfDay / 60 % 60) ++ ":" ++
    padded 2 second ++ fractionText (if leap then t.nanos - 1000000000 else t.nanos) ++
    offsetText t.offset

/-! ## reading -/

def digitsValue (cs : List Char) : Nat := cs.foldl (fun n c => 10 * n + (c.toNat - 48)) 0

/-- between `low` and `high` digits, as many as there are -/
def number (low high : Nat) : Scan Nat := fun cs =>
  let digits := (cs.take high).takeWhile Char.isDigit
  if digits.length < low then none else some (digitsValue digits, cs.drop digits.length)

/-- the decimals of a second in nanoseconds; those beyond the ninth do not count -/
def nanoseconds : Scan Nat := do
  let digits ← Scan.takeWhile1 Char.isDigit
  let kept := digits.take 9
  return digitsValue kept * Nat.pow 10 (9 - kept.length)

/-- a point and decimals, or nothing -/
def fraction : Scan Nat := fun cs =>
  match cs with
  | '.' :: rest => nanoseconds rest
  | _ => some (0, cs)

/-- hours and minutes in two digits each, as seconds -/
def hoursAndMinutes : Scan Int := do
  let hours ← number 2 2
  Scan.char ':'
  let minutes ← number 2 2
  guard (minutes < 60 && hours < 24)
  return Int.ofNat (hours * 3600 + minutes * 60)

/-- `Z`, or hours and minutes after a sign; the minus may be a hyphen or U+2212 -/
def zone : Scan Int := do
  match ← Scan.satisfy fun c => "Zz+-\u2212".contains c with
  | '+' => hoursAndMinutes
  | '-' | '\u2212' => return -(← hoursAndMinutes)
  | _ => return 0

/-- hours, minutes and seconds as a second of the day and nanoseconds; second 60 is a leap second -/
def timeOfDay? (hour minute second nanos : Nat) : Option (Nat × Nat) :=
  if 24 ≤ hour || 60 ≤ minute || 60 < second then none
  else if second == 60 then some (hour * 3600 + minute * 60 + 59, nanos + 1000000000)
  else some (hour * 3600 + minute * 60 + second, nanos)

/-- the strict profile -/
def zoned : Scan Instant := do
  let year ← number 4 4
  Scan.char '-'
  let month ← number 2 2
  Scan.char '-'
  let day ← number 2 2
  let _ ← Scan.satisfy fun c => c == 'T' || c == 't' || c == ' '
  let hour ← number 2 2
  Scan.char ':'
  let minute ← number 2 2
  Scan.char ':'
  let second ← number 2 2
  let nanos ← fraction
  let offset ← zone
  let date : Date := ⟨Int.ofNat year, month, day⟩
  guard date.isValid
  let (second, nanos) ← timeOfDay? hour minute second nanos
  return Instant.ofLocal date second nanos offset

/-- a number after blanks -/
def loose (high : Nat) : Scan Nat := do
  let _ ← Scan.takeWhile isBlank
  number 1 high

/-- a year: four digits at most, or any number of them after a sign -/
def looseYear : Scan Int := do
  let _ ← Scan.takeWhile isBlank
  let sign ← Scan.optional? (Scan.satisfy fun c => c == '-' || c == '+')
  match sign with
  | some '-' => return -Int.ofNat (digitsValue (← Scan.takeWhile1 Char.isDigit))
  | some _ => return Int.ofNat (digitsValue (← Scan.takeWhile1 Char.isDigit))
  | none => return Int.ofNat (← number 1 4)

def looseDate : Scan Date := do
  let year ← looseYear
  Scan.char '-'
  let month ← loose 2
  Scan.char '-'
  let day ← loose 2
  let date : Date := ⟨year, month, day⟩
  guard date.isValid
  return date

/-- a date and a time without zone -/
def unzoned : Scan Instant := do
  let date ← looseDate
  Scan.char 'T'
  let hour ← loose 2
  Scan.char ':'
  let minute ← loose 2
  Scan.char ':'
  let second ← loose 2
  let nanos ← fraction
  let (second, nanos) ← timeOfDay? hour minute second nanos
  return Instant.ofLocal date second nanos 0

/-- one final `Z` removed -/
def dropZulu (cs : List Char) : List Char :=
  match cs.reverse with
  | 'Z' :: rest => rest.reverse
  | _ => cs

def parseInstant? (s : String) : Option Instant :=
  let cs := trimChars s.toList
  (zoned.all? cs) <|> (unzoned.all? cs) <|>
    ((looseDate.all? (dropZulu cs)).map fun date => Instant.ofLocal date 0 0 0)

end Rulebook.Time
