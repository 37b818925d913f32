import Rulebook.Scope.Environment
import Rulebook.Schema.Error
import Rulebook.Schema.Message
import Rulebook.Schema.Severity

/-!
# Schemas

A schema has patterns, a pattern has rules, and a rule has assertions about the nodes that it
selects.  Each of the three levels declares variables and functions of its own; what lies inside
sees them.  A phase names some of the patterns.
-/

namespace Rulebook

/-! ## assertions -/

inductive AssertionKind where
  /-- fails where its test is false -/
  | assert
  /-- fails where its test is true -/
  | report
deriving DecidableEq, Repr

def AssertionKind.name : AssertionKind → String
  | assert => "assert"
  | report => "report"

/-- whether an item is as it should be, by the outcome of the test -/
def AssertionKind.satisfied : AssertionKind → Bool → Bool
  | assert, holds => holds
  | report, holds => !holds

structure Assertion where
  id : String
  kind : AssertionKind
  severity : Severity
  test : String
  message : Template
  flag : Option String
  role : Option String
deriving DecidableEq, Repr

def Assertion.new (id : String) (kind : AssertionKind) (severity : Severity) (test : String)
    (message : Template) : Assertion :=
  ⟨id, kind, severity, test, message, none, none⟩

/-- which assertions a run is about -/
abbrev AssertionFilter := Assertion → Bool

namespace AssertionFilter

def all : AssertionFilter := fun _ => true

def none : AssertionFilter := fun _ => false

def ofPrefix (start : String) : AssertionFilter := fun a => Text.begins start a.id

def ofSeverities (severities : List Severity) : AssertionFilter :=
  fun a => severities.contains a.severity

end AssertionFilter

/-! ## declarations -/

/-- a variable with the value that a text gives it -/
def Declarations.declare (d : Declarations) (binding : Binding) (dialect : Dialect)
    (name value : String) : Except ValidationError Declarations :=
  match compile value binding dialect with
  | .ok e => .ok (d.define name e)
  | .error e => .error (.compile e)

/-! ## rules and patterns -/

structure Rule where
  id : Option String
  /-- the selector of the nodes that the assertions are about; it is compiled when it is needed -/
  context : String
  declarations : Declarations
  assertions : List Assertion

namespace Rule

def new (context : String) : Rule := ⟨none, context, ∅, []⟩

def setId (r : Rule) (id : String) : Rule := { r with id := some id }

/-- a variable that is evaluated for each node the rule selects -/
def define (r : Rule) (binding : Binding) (name value : String) : Except ValidationError Rule := do
  return { r with declarations := ← r.declarations.declare binding .full name value }

theorem define_eq (r : Rule) (binding : Binding) (name value : String) :
    r.define binding name value = ((compile value binding .full).mapError .compile).map fun e =>
      { r with declarations := r.declarations.define name e } := by
  unfold define Declarations.declare
  cases compile value binding .full <;> rfl

def defineFunction (r : Rule) (f : FunctionDecl) : Rule :=
  { r with declarations := r.declarations.defineFunction f }

def addAssertion (r : Rule) (a : Assertion) : Rule := { r with assertions := r.assertions ++ [a] }

end Rule

structure Pattern where
  id : String
  title : Option String
  declarations : Declarations
  rules : List Rule

namespace Pattern

def new (id : String) : Pattern := ⟨id, none, ∅, []⟩

def setTitle (p : Pattern) (title : String) : Pattern := { p with title := some title }

/-- a variable whose value needs no context -/
def define (p : Pattern) (binding : Binding) (name value : String) :
    Except ValidationError Pattern := do
  return { p with declarations := ← p.declarations.declare binding .literal name value }

theorem define_eq (p : Pattern) (binding : Binding) (name value : String) :
    p.define binding name value = ((compile value binding .literal).mapError .compile).map fun e =>
      { p with declarations := p.declarations.define name e } := by
  unfold define Declarations.declare
  cases compile value binding .literal <;> rfl

def defineFunction (p : Pattern) (f : FunctionDecl) : Pattern :=
  { p with declarations := p.declarations.defineFunction f }

def addRule (p : Pattern) (r : Rule) : Pattern := { p with rules := p.rules ++ [r] }

/-- a change of one rule; without such a rule nothing changes -/
def updateRule (p : Pattern) (i : Nat) (f : Rule → Rule) : Pattern :=
  { p with rules := p.rules.modify i f }

end Pattern

/-- some patterns by their ids -/
structure Phase where
  id : String
  active : List String
deriving DecidableEq, Repr

/-! ## schemas -/

structure Schema where
  title : String
  binding : Binding
  declarations : Declarations
  patterns : List Pattern
  phases : List Phase
  namespaces : Table String

namespace Schema

def new (title tag : String) : Except ValidationError Schema :=
  match Binding.ofTag? tag with
  | some binding => .ok ⟨title, binding, ∅, [], [], ∅⟩
  | none => .error (.unknownBinding tag)

/-- a variable whose value needs no context -/
def define (s : Schema) (name value : String) : Except ValidationError Schema := do
  return { s with declarations := ← s.declarations.declare s.binding .literal name value }

theorem define_eq (s : Schema) (name value : String) :
    s.define name value = ((compile value s.binding .literal).mapError .compile).map fun e =>
      { s with declarations := s.declarations.define name e } := by
  unfold define Declarations.declare
  cases compile value s.binding .literal <;> rfl

def defineFunction (s : Schema) (f : FunctionDecl) : Schema :=
  { s with declarations := s.declarations.defineFunction f }

def addNamespace (s : Schema) (name uri : String) : Schema :=
  { s with namespaces := s.namespaces.insert name uri }

def pattern? (s : Schema) (id : String) : Option Pattern := s.patterns.find? (·.id == id)

def phase? (s : Schema) (id : String) : Option Phase := s.phases.find? (·.id == id)

/-- a new pattern behind the others -/
def addPattern (s : Schema) (id : String) : Except ValidationError Schema :=
  if (s.pattern? id).isSome then .error (.duplicatePattern id)
  else .ok { s with patterns := s.patterns ++ [.new id] }

/-- a new phase of patterns that exist -/
def addPhase (s : Schema) (id : String) (active : List String) : Except ValidationError Schema :=
  if (s.phase? id).isSome then .error (.duplicatePhase id)
  else match active.find? fun p => (s.pattern? p).isNone with
    | some missing => .error (.unknownPhasePattern id missing)
    | none => .ok { s with phases := s.phases ++ [⟨id, active⟩] }

/-- a change inside one pattern, which keeps its id; without such a pattern nothing changes -/
def updatePattern (s : Schema) (i : Nat) (f : Pattern → Pattern) : Schema :=
  { s with patterns := s.patterns.modify i fun p => { f p with id := p.id } }

/-- the patterns of a phase in the order of the schema, or all of them -/
def activePatterns (s : Schema) (phase : Option String) : Except ValidationError (List Pattern) :=
  match phase with
  | none => .ok s.patterns
  | some id =>
    match s.phase? id with
    | some p => .ok (s.patterns.filter fun q => p.active.contains q.id)
    | none => .error (.unknownPhase id)

theorem activePatterns_of_unknown {s : Schema} {id : String} (h : ∀ ph ∈ s.phases, ph.id ≠ id) :
    s.activePatterns (some id) = .error (.unknownPhase id) := by
  have hnone : s.phase? id = none :=
    List.find?_eq_none.mpr fun ph hph => by simp [h ph hph]
  simp only [activePatterns, hnone]

/-- all assertions in the order in which they are run -/
def assertions (s : Schema) : List Assertion :=
  s.patterns.flatMap fun p => p.rules.flatMap (·.assertions)

/-- what a rule sees: its own declarations, those of its pattern, those of the schema -/
def environment (s : Schema) (p : Pattern) (r : Rule) : Environment :=
  [r.declarations, p.declarations, s.declarations]

end Schema

end Rulebook
