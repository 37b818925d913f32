import Rulebook.Value.Comparison

/-!
# Operators

What the binary operators make of two values.  Arithmetic needs single literals, a union needs
nodes, conditions and general comparisons take anything.
-/

namespace Rulebook

namespace Value

/-- the nodes of both sides in document order -/
def union (left right : Value) : Except EvalError Value := do
  let ns ← left.nodes
  let ms ← right.nodes
  return ofNodes (Node.inOrder (ns ++ ms))

/-- a function of the numbers that two values stand for -/
def arithmetic (d : Document) (f : Float → Float → Float) (left right : Value) :
    Except EvalError Value := do
  let x ← left.operand d
  let y ← right.operand d
  return ofNumber (f x y)

end Value

/-- an operator applied to the values of its operands -/
def BinaryOp.apply (d : Document) (op : BinaryOp) (left right : Value) : Except EvalError Value :=
  match op with
  | .or => .ok (.ofBool (left.truth || right.truth))
  | .and => .ok (.ofBool (left.truth && right.truth))
  | .general r => .ok (.ofBool (Value.generalHolds d r left right))
  | .value r => Value.compareSingle d r left right
  | .add => Value.arithmetic d (· + ·) left right
  | .subtract => Value.arithmetic d (· - ·) left right
  | .multiply => Value.arithmetic d (· * ·) left right
  | .divide => Value.arithmetic d (· / ·) left right
  | .modulo => Value.arithmetic d Number.remainder left right
  | .union => Value.union left right

end Rulebook
