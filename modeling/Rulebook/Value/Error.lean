/-!
# Errors of evaluation

One constructor for each cause, and the wording of each in `EvalError.message`.

That a text is no expression, or none that its place admits, is not among them: it is a
`CompileError`.  Only what has compiled is evaluated, and evaluating compiles nothing, so the types
alone say that no such error comes out of an evaluation.
-/

namespace Rulebook

inductive EvalError where
  /-- the root of a document is no literal -/
  | documentNode
  /-- nor is an element that contains elements -/
  | notLeaf (name : String)
  /-- nor are several items -/
  | manyItems (count : Nat)
  /-- a literal where a path or a union needs a node -/
  | notNode (typeName : String)
  /-- a bound of a range that is no whole number, or too large -/
  | rangeBound (text : String)
  | rangeTooLong (first last : Int)
  /-- a literal where a function needs a node -/
  | argumentNotNode (function typeName : String)
  | notInstant (function text : String)
  | unsupportedFlag (flag : Char)
  | badPattern (detail : String)
  | unknownFunction (name : String)
  /-- `most` is none for a function of any number of arguments -/
  | arity (function : String) (least : Nat) (most : Option Nat) (actual : Nat)
  | unknownVariable (name : String)
  | unknownPrefix (name : String)
  | noContextNode
  /-- definitions that refer to definitions, further down than allowed -/
  | depthExceeded (limit : Nat)
deriving DecidableEq, Repr

/-- the most items that a range has -/
def maxRangeLength : Nat := Nat.pow 2 20

namespace EvalError

/-- how many arguments a function takes, in words -/
def expected (least : Nat) : Option Nat → String
  | some most => if most = least then toString least else toString least ++ " to " ++ toString most
  | none => "at least " ++ toString least

def message : EvalError → String
  | documentNode => "Conversion error: the document node cannot be converted to a literal"
  | notLeaf name =>
    "Conversion error: element '" ++ name ++ "' is not a leaf and cannot be converted to a literal"
  | manyItems count =>
    "Conversion error: a sequence of " ++ toString count ++
      " items cannot be converted to a single literal"
  | notNode typeName => "Type error: expected a node, found " ++ typeName
  | rangeBound text => "Type error: range bounds must be integers, got " ++ text
  | rangeTooLong first last =>
    "Type error: range " ++ toString first ++ " to " ++ toString last ++ " exceeds " ++
      toString maxRangeLength ++ " items"
  | argumentNotNode function typeName =>
    "Function '" ++ function ++ "' error: expected a node, found " ++ typeName
  | notInstant function text =>
    "Function '" ++ function ++ "' error: '" ++ text ++ "' is not a valid instant"
  | unsupportedFlag flag =>
    "Function 'matches' error: unsupported flag '" ++ String.singleton flag ++ "'"
  | badPattern detail => "Function 'matches' error: " ++ detail
  | unknownFunction name => "Unknown function '" ++ name ++ "'"
  | arity function least most actual =>
    "Function '" ++ function ++ "' expects " ++ expected least most ++ " argument(s), got " ++
      toString actual
  | unknownVariable name => "Variable '" ++ name ++ "' not found"
  | unknownPrefix name => "Namespace prefix '" ++ name ++ "' is not declared"
  | noContextNode => "Context node required"
  | depthExceeded limit => "Evaluation exceeded the maximum depth of " ++ toString limit

end EvalError

end Rulebook
