import Rulebook.Eval.Context
import Rulebook.Json
import Rulebook.Schema.Error

/-!
# Options of a run

They are read from a JSON object with the fields `phase`, `max_depth` and `stop_on_first_failure`,
or from an array with their values in this order.  What is missing has its default.
-/

namespace Rulebook

structure ExecutionOptions where
  phase : Option String
  maxDepth : Nat
  /-- end after the first fatal failure -/
  stopOnFirstFailure : Bool
deriving DecidableEq, Repr

/-- the phase that has all patterns -/
def allPhases : String := "#ALL"

namespace ExecutionOptions

def standard : ExecutionOptions := ⟨none, defaultMaxDepth, false⟩

/-- the phase that a run is restricted to -/
def selectedPhase (o : ExecutionOptions) : Option String := o.phase.filter (· != allPhases)

def withPhase (o : ExecutionOptions) (phase : String) : ExecutionOptions :=
  { o with phase := some phase }

def validate (o : ExecutionOptions) : Except OptionsError Unit :=
  if o.maxDepth = 0 then .error .zeroDepth else .ok ()

/-! ## reading -/

/-- the values of the three fields, as far as they are given -/
structure Given where
  phase : Option JsonValue
  maxDepth : Option JsonValue
  stopOnFirstFailure : Option JsonValue

/-- the one value of a field; twice the same field is an error -/
def field? (fields : List (Option String × JsonValue)) (name : String) :
    Except OptionsError (Option JsonValue) :=
  match fields.filter fun f => f.1 == some name with
  | [] => .ok none
  | [f] => .ok (some f.2)
  | _ => .error .malformed

/-- all field names of an object must be texts -/
def given : JsonValue → Except OptionsError Given
  | .object fields => do
    if fields.any (·.1.isNone) then throw .malformed
    return ⟨← field? fields "phase", ← field? fields "max_depth",
      ← field? fields "stop_on_first_failure"⟩
  | .array items =>
    if items.length ≤ 3 then .ok ⟨items[0]?, items[1]?, items[2]?⟩ else .error .malformed
  | _ => .error .malformed

def phaseOf : Option JsonValue → Except OptionsError (Option String)
  | none => .ok standard.phase
  | some .null => .ok none
  | some (.string (some s)) => .ok (some s)
  | _ => .error .malformed

/-- natural numbers of 64 bits -/
def maxDepthOf : Option JsonValue → Except OptionsError Nat
  | none => .ok standard.maxDepth
  | some (.number (some n)) => if n < UInt64.size then .ok n else .error .malformed
  | _ => .error .malformed

def stopOf : Option JsonValue → Except OptionsError Bool
  | none => .ok standard.stopOnFirstFailure
  | some (.bool b) => .ok b
  | _ => .error .malformed

/-- options as a JSON text gives them -/
def ofJson (s : String) : Except OptionsError ExecutionOptions := do
  match JsonValue.parse? s with
  | none => throw .malformed
  | some j =>
    let g ← given j
    let o : ExecutionOptions :=
      ⟨← phaseOf g.phase, ← maxDepthOf g.maxDepth, ← stopOf g.stopOnFirstFailure⟩
    o.validate
    return o

end ExecutionOptions

end Rulebook
