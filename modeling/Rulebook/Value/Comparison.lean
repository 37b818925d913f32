import Rulebook.Expr.Basic
import Rulebook.Value.Item

/-!
# Comparisons

Two literals are compared as truth values, instants, numbers or texts, whichever comes first that
one of them is.  General comparisons hold if some pair of items does; value comparisons are about
two single literals.
-/

namespace Rulebook

/-- the ordering of two literals, if they have one; `relational` comparisons, which ask for more
or less, turn truth values and texts into numbers -/
def Atomic.compare? (relational : Bool) (a b : Atomic) : Option Ordering :=
  match a, b with
  | .boolean _, _ | _, .boolean _ =>
    if relational then Number.compare? a.asNumber b.asNumber else some (compare a.truth b.truth)
  | .instant _, _ | _, .instant _ =>
    match a.asInstant?, b.asInstant? with
    | some s, some t => some (s.compare t)
    | _, _ => none
  | .text s, .text t =>
    if relational then Number.compare? a.asNumber b.asNumber else some (compare s t)
  | _, _ => Number.compare? a.asNumber b.asNumber

namespace Relation

/-- more or less, as against equal or not -/
def isRelational : Relation → Bool
  | eq | ne => false
  | _ => true

/-- of things without ordering only inequality holds -/
def holds (r : Relation) : Option Ordering → Bool
  | none => r == ne
  | some o =>
    match r with
    | eq => o == .eq
    | ne => o != .eq
    | lt => o == .lt
    | le => o != .gt
    | gt => o == .gt
    | ge => o != .lt

end Relation

namespace Value

def isBoolean : Value → Bool
  | [.atomic (.boolean _)] => true
  | _ => false

variable (d : Document)

/-- some item on the left is in the relation to some item on the right; beside a single truth
value all of the other side decides as a condition -/
def generalHolds (r : Relation) (left right : Value) : Bool :=
  if left.isBoolean || right.isBoolean then
    r.holds (Atomic.compare? r.isRelational (.boolean left.truth) (.boolean right.truth))
  else
    let others := right.atomize d
    (left.atomize d).any fun a => others.any fun b => r.holds (Atomic.compare? r.isRelational a b)

/-- the comparison of two single literals, empty if one of them is -/
def compareSingle (r : Relation) (left right : Value) : Except EvalError Value := do
  match ← left.single? d, ← right.single? d with
  | some a, some b => return ofBool (r.holds (Atomic.compare? false a b))
  | _, _ => return []

end Value

end Rulebook
