import Rulebook.Schema.Basic

/-!
# Results

One result for each assertion of a run, and the counts of many of them.
-/

namespace Rulebook

/-- What a run says about an assertion.  How long the assertion took, which a report may give as well,
is left out: nothing else of a result, and nothing of the run, depends on it. -/
structure Result where
  id : String
  severity : Severity
  kind : AssertionKind
  message : String
  /-- how many nodes the rule selects -/
  total : Nat
  /-- how many of them satisfied the assertion before it failed -/
  pass : Nat
  /-- why the assertion failed, if it did -/
  error : Option ValidationError
  /-- the id of the pattern -/
  pattern : String
  /-- the selector of the rule -/
  context : String
  flag : Option String
  role : Option String
deriving DecidableEq, Repr

/-- the id of the result for a rule that cannot be run -/
def ruleResultId : String := "RULE"

/-- the message of the result for a cancelled assertion -/
def cancelMessage : String := "cancel"

namespace Result

/-- an assertion about which nothing is known yet -/
def ofAssertion (p : Pattern) (r : Rule) (a : Assertion) : Result :=
  { id := a.id, severity := a.severity, kind := a.kind, message := a.message.display, total := 0,
    pass := 0, error := none, pattern := p.id, context := r.context, flag := a.flag, role := a.role }

/-- a rule that cannot be run -/
def ruleFailure (p : Pattern) (r : Rule) (e : ValidationError) : Result :=
  { id := ruleResultId, severity := .fatal, kind := .assert, message := e.message, total := 0,
    pass := 0, error := some e, pattern := p.id, context := r.context, flag := none, role := none }

/-- an assertion that was not reached -/
def cancelled (p : Pattern) (r : Rule) (a : Assertion) : Result :=
  { ofAssertion p r a with severity := .fatal, message := cancelMessage, error := some .cancelled }

def isFailed (r : Result) : Bool := r.error.isSome

def isFatalFailure (r : Result) : Bool := r.isFailed && r.severity == .fatal

end Result

/-! ## counts -/

structure Summary where
  total : Nat
  passed : Nat
  failed : Nat
  /-- failed results by their severity -/
  fatal : Nat
  warning : Nat
  info : Nat
deriving DecidableEq, Repr

namespace Summary

def empty : Summary := ⟨0, 0, 0, 0, 0, 0⟩

def addFailure (s : Summary) : Severity → Summary
  | .fatal => { s with fatal := s.fatal + 1 }
  | .warning => { s with warning := s.warning + 1 }
  | .info => { s with info := s.info + 1 }

/-- one result more -/
def add (s : Summary) (r : Result) : Summary :=
  let counted := { s with total := s.total + 1 }
  if r.isFailed then { counted with failed := s.failed + 1 }.addFailure r.severity
  else { counted with passed := s.passed + 1 }

def ofResults (rs : List Result) : Summary := rs.foldl add empty

/-- nothing fatal has failed -/
def isValid (s : Summary) : Bool := s.fatal == 0

end Summary

end Rulebook
