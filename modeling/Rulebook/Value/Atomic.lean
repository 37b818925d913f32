import Rulebook.Number.Arithmetic
import Rulebook.Number.Decimal
import Rulebook.Time.Rfc3339

/-!
# Literals

A literal is a text, a number, a truth value or an instant.  Each of them has a text and a number,
and decides a condition.
-/

namespace Rulebook

inductive Atomic where
  | text (s : String)
  | number (x : Float)
  | boolean (b : Bool)
  | instant (t : Time.Instant)
deriving Repr

namespace Atomic

def typeName : Atomic → String
  | text _ => "xs:string"
  | number _ => "xs:double"
  | boolean _ => "xs:boolean"
  | instant _ => "xs:dateTime"

def asText : Atomic → String
  | text s => s
  | number x => Number.format x
  | boolean b => if b then "true" else "false"
  | instant t => t.format

/-- truth values are one and zero, instants are no number -/
def asNumber : Atomic → Float
  | text s => Number.parse s
  | number x => x
  | boolean b => if b then Number.ofNat 1 else Number.ofNat 0
  | instant _ => Number.nan

/-- false are the empty text, zero, what is no number, and every instant -/
def truth : Atomic → Bool
  | text s => !s.isEmpty
  | number x => !(x == 0) && !Number.isNaN x
  | boolean b => b
  | instant _ => false

def asInstant? : Atomic → Option Time.Instant
  | text s => Time.parseInstant? s
  | instant t => some t
  | _ => none

end Atomic

end Rulebook
