import Rulebook.Expr.Compiled
import Rulebook.Value.Error

/-!
# Errors of schemas

What can be wrong with a schema, with the options of a run, and with a document.
-/

namespace Rulebook

inductive OptionsError where
  /-- the text is no JSON, or its fields have other types -/
  | malformed
  /-- no depth is allowed at all -/
  | zeroDepth
deriving DecidableEq, Repr

def OptionsError.message : OptionsError → String
  | malformed => "expected an object with phase, max_depth and stop_on_first_failure"
  | zeroDepth => "max_depth must be at least 1"

inductive ErrorKind where
  /-- the schema or the options do not fit together -/
  | structural
  /-- an expression does not compile -/
  | compile
  /-- an expression cannot be evaluated -/
  | resolution
  /-- an item of the document fails -/
  | assertion
  | cancellation
deriving DecidableEq, Repr

inductive ValidationError where
  | unknownBinding (tag : String)
  | duplicatePattern (id : String)
  | duplicatePhase (id : String)
  | unknownPhasePattern (phase pattern : String)
  | unknownPhase (id : String)
  | options (e : OptionsError)
  | compile (e : CompileError)
  /-- never about a text that does not compile: the type of `e` has no such error, so to wrap what
  an evaluation gives needs no case for `compile` -/
  | evaluation (subject : String) (e : EvalError)
  | assertion (message : String)
  | cancelled
deriving DecidableEq, Repr

namespace ValidationError

def kind : ValidationError → ErrorKind
  | unknownBinding _ => .structural
  | duplicatePattern _ => .structural
  | duplicatePhase _ => .structural
  | unknownPhasePattern .. => .structural
  | unknownPhase _ => .structural
  | options _ => .structural
  | compile _ => .compile
  | evaluation .. => .resolution
  | assertion _ => .assertion
  | cancelled => .cancellation

def message : ValidationError → String
  | unknownBinding tag => "Unknown query binding '" ++ tag ++ "'"
  | duplicatePattern id => "Duplicate pattern id '" ++ id ++ "'"
  | duplicatePhase id => "Duplicate phase id '" ++ id ++ "'"
  | unknownPhasePattern phase pattern =>
    "Phase '" ++ phase ++ "' references unknown pattern '" ++ pattern ++ "'"
  | unknownPhase id => "Unknown phase '" ++ id ++ "'"
  | options e => "Invalid execution options: " ++ e.message
  | compile e => "Compile error: " ++ e.message
  | evaluation subject e => subject ++ ": " ++ e.message
  | assertion message => "Assertion failed: " ++ message
  | cancelled => "Execution cancelled"

end ValidationError

/-- why a validation does not start -/
inductive StartError where
  /-- the document is no well-formed XML -/
  | document
  | validation (e : ValidationError)
deriving DecidableEq, Repr

def StartError.message : StartError → String
  | document => "Document is not well-formed XML"
  | validation e => "Validation could not start: " ++ e.message

end Rulebook
