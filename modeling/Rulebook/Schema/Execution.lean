import Rulebook.Schema.Cancellation
import Rulebook.Schema.Options
import Rulebook.Schema.Result

/-!
# Running a schema

An execution gives one result after the other: patterns in order, rules in order, assertions in
order, and nothing is evaluated before its result is asked for.  `Execution.next` gives the next
result and the execution behind it.  Each accepted assertion takes one look at the token; a rule
that is cancelled or that cannot be run ends with the result that says so.
-/

namespace Rulebook

/-! ## what stays the same during a run -/

structure Run where
  schema : Schema
  document : Document
  /-- the node that absolute paths begin at -/
  root : Node
  filter : AssertionFilter
  maxDepth : Nat
  stopOnFirstFailure : Bool
  /-- the time, held fixed for the whole run and so for each evaluation in it; a clock read at each
  call could have gone on from one result to the next, or within one -/
  now : Time.Instant

namespace Run

/-- the context of one item of a rule -/
def context (run : Run) (p : Pattern) (r : Rule) (n : Node) (position size : Nat) : Context :=
  { Context.new run.document (.node n) run.root (.ofEnvironment (run.schema.environment p r))
      run.schema.namespaces run.now with
    position, size, maxDepth := run.maxDepth }

/-! ## one rule -/

/-- the nodes that the selector of a rule selects, in document order -/
def select (run : Run) (p : Pattern) (r : Rule) (selector : Compiled) :
    Except ValidationError (List Node) :=
  let found := do (← selector.evaluate (run.context p r run.root 1 1)).nodes
  match found with
  | .ok ns => .ok (Node.inOrder ns)
  | .error e => .error (.evaluation ("Rule context '" ++ r.context ++ "'") e)

theorem select_of_error {run : Run} {p : Pattern} {r : Rule} {s : Compiled} {e : EvalError}
    (h : s.evaluate (run.context p r run.root 1 1) = .error e) :
    ∃ error, run.select p r s = .error error := by
  unfold select
  rw [h]
  exact ⟨_, rfl⟩

theorem select_of_ok {run : Run} {p : Pattern} {r : Rule} {s : Compiled} {v : Value}
    (h : s.evaluate (run.context p r run.root 1 1) = .ok v) :
    (∃ ns, v = .ofNodes ns ∧ run.select p r s = .ok (Node.inOrder ns)) ∨
      ∃ a error, Item.atomic a ∈ v ∧ run.select p r s = .error error := by
  unfold select
  rw [h]
  rcases v.nodes_cases with ⟨ns, hv, hn⟩ | ⟨a, e, ha, hn⟩
  · refine .inl ⟨ns, hv, ?_⟩
    show (match v.nodes with
      | .ok ns => Except.ok (Node.inOrder ns)
      | .error e => Except.error (ValidationError.evaluation _ e)) = _
    rw [hn]
  · refine .inr ⟨a, .evaluation ("Rule context '" ++ r.context ++ "'") e, ha, ?_⟩
    show (match v.nodes with
      | .ok ns => Except.ok (Node.inOrder ns)
      | .error e => Except.error (ValidationError.evaluation _ e)) = _
    rw [hn]

/-- all tests compile -/
def checkTests (binding : Binding) : List Assertion → Except ValidationError Unit
  | [] => .ok ()
  | a :: rest =>
    match compile a.test binding .full with
    | .ok _ => checkTests binding rest
    | .error e => .error (.compile e)

theorem checkTests_of_error {b : Binding} {a : Assertion} {e : CompileError}
    (h : compile a.test b .full = .error e) (as : List Assertion) :
    checkTests b (a :: as) = .error (.compile e) := by
  show (match compile a.test b .full with
    | .ok _ => checkTests b as
    | .error e => .error (.compile e)) = _
  rw [h]

theorem checkTests_of_ok {b : Binding} {a : Assertion} {c : Compiled}
    (h : compile a.test b .full = .ok c) (as : List Assertion) :
    checkTests b (a :: as) = checkTests b as := by
  show (match compile a.test b .full with
    | .ok _ => checkTests b as
    | .error e => .error (.compile e)) = _
  rw [h]

/-- compiles a rule as far as the filter accepts its assertions, and selects its nodes -/
def prepare (run : Run) (p : Pattern) (r : Rule) : Except ValidationError (List Node) := do
  let selector ← (compileSelector r.context run.schema.binding).mapError .compile
  checkTests run.schema.binding (r.assertions.filter run.filter)
  run.select p r selector

/-- the first of the nodes that does not satisfy a test, with its index, the first being `i` -/
def firstFailure (run : Run) (p : Pattern) (r : Rule) (kind : AssertionKind) (test : Compiled)
    (size : Nat) : Nat → List Node → Except EvalError (Option (Nat × Context))
  | _, [] => .ok none
  | i, n :: rest => do
    let c := run.context p r n (i + 1) size
    let v ← test.evaluate c
    if kind.satisfied v.truth then run.firstFailure p r kind test size (i + 1) rest
    else return some (i, c)

/-- the result of an assertion about the nodes of its rule -/
def resultOf (run : Run) (p : Pattern) (r : Rule) (a : Assertion) (ns : List Node) : Result :=
  let result := { Result.ofAssertion p r a with total := ns.length }
  match compile a.test run.schema.binding .full with
  | .error e => { result with error := some (.compile e) }
  | .ok test =>
    match run.firstFailure p r a.kind test ns.length 0 ns with
    | .ok none => { result with pass := ns.length }
    | .ok (some (i, c)) =>
      let message := a.message.render c run.schema.binding
      { result with pass := i, message, error := some (.assertion message) }
    | .error e => { result with error := some (.evaluation a.message.display e) }

end Run

/-- a rule being run -/
structure RuleExecution where
  pattern : Pattern
  rule : Rule
  /-- its nodes, once they are needed -/
  nodes : Option (List Node)
  /-- the assertions that remain -/
  rest : List Assertion

namespace RuleExecution

def new (p : Pattern) (r : Rule) : RuleExecution := ⟨p, r, none, r.assertions⟩

/-- nothing follows -/
def ended (e : RuleExecution) : RuleExecution := { e with rest := [] }

/-- the nodes of the rule; it is prepared when they are first needed -/
def prepared (run : Run) (e : RuleExecution) : Except ValidationError (List Node) :=
  match e.nodes with
  | some ns => .ok ns
  | none => run.prepare e.pattern e.rule

/-- the result of the next assertion that the filter accepts, if there is one, and what remains;
only such an assertion is a reason to look at the token -/
def next (run : Run) (w : Watch) (e : RuleExecution) : Option Result × RuleExecution × Watch :=
  match e.rest.dropWhile fun a => !run.filter a with
  | [] => (none, e.ended, w)
  | a :: rest =>
    if w.look.1 then (some (.cancelled e.pattern e.rule a), e.ended, w.look.2)
    else match e.prepared run with
      | .ok ns =>
        (some (run.resultOf e.pattern e.rule a ns), { e with nodes := some ns, rest }, w.look.2)
      | .error error => (some (.ruleFailure e.pattern e.rule error), e.ended, w.look.2)

theorem length_rest_next_lt {run : Run} {w w' : Watch} {e e' : RuleExecution} {result : Result}
    (h : e.next run w = (some result, e', w')) : e'.rest.length < e.rest.length := by
  unfold next at h
  split at h
  · simp at h
  next a rest heq =>
    have hle : (a :: rest).length ≤ e.rest.length := by
      rw [← heq]
      exact (List.dropWhile_suffix _).length_le
    simp only [List.length_cons] at hle
    split at h
    · obtain ⟨-, rfl, -⟩ := h
      simp only [ended, List.length_nil]
      omega
    · split at h
      · obtain ⟨-, rfl, -⟩ := h
        exact hle
      · obtain ⟨-, rfl, -⟩ := h
        simp only [ended, List.length_nil]
        omega

end RuleExecution

/-! ## the whole schema -/

structure Execution where
  run : Run
  /-- the rules that remain, the first of them perhaps begun -/
  rules : List RuleExecution

namespace Execution

/-- the next result of some rules, if there is one, and what remains of them -/
def nextOf (run : Run) (w : Watch) :
    List RuleExecution → Option Result × List RuleExecution × Watch
  | [] => (none, [], w)
  | e :: rest =>
    match e.next run w with
    | (some result, e, w) => (some result, e :: rest, w)
    | (none, _, w) => nextOf run w rest

/-- the next result, if there is one, and what the execution and its watch are then -/
def next (e : Execution) (w : Watch) : Option Result × Execution × Watch :=
  match nextOf e.run w e.rules with
  | (some result, rules, w) =>
    if e.run.stopOnFirstFailure && result.isFatalFailure then
      (some result, { e with rules := [] }, w)
    else (some result, { e with rules }, w)
  | (none, rules, w) => (none, { e with rules }, w)

/-- the number of assertions that remain -/
def remainingOf : List RuleExecution → Nat
  | [] => 0
  | e :: rest => e.rest.length + remainingOf rest

def remaining (e : Execution) : Nat := remainingOf e.rules

theorem remainingOf_nextOf_lt {run : Run} {w w' : Watch} {rules rules' : List RuleExecution}
    {result : Result} (h : nextOf run w rules = (some result, rules', w')) :
    remainingOf rules' < remainingOf rules := by
  induction rules generalizing w with
  | nil => simp [nextOf] at h
  | cons e rest ih =>
    unfold nextOf at h
    split at h
    next r e' w₁ he =>
      obtain ⟨-, rfl, -⟩ := h
      simp only [remainingOf]
      have := RuleExecution.length_rest_next_lt he
      omega
    next he =>
      have := ih h
      simp only [remainingOf] at this ⊢
      omega

theorem remaining_next_lt {e e' : Execution} {w w' : Watch} {result : Result}
    (h : e.next w = (some result, e', w')) : e'.remaining < e.remaining := by
  unfold next at h
  split at h
  next r rules w₁ hn =>
    have hlt := remainingOf_nextOf_lt hn
    split at h
    · obtain ⟨-, rfl, -⟩ := h
      simp only [remaining, remainingOf] at hlt ⊢
      omega
    · obtain ⟨-, rfl, -⟩ := h
      exact hlt
  · simp at h

/-- the results up to the end -/
def resultsFrom (w : Watch) (e : Execution) : List Result :=
  match _h : e.next w with
  | (some result, e', w') => result :: resultsFrom w' e'
  | (none, _, _) => []
termination_by e.remaining
decreasing_by exact remaining_next_lt _h

/-- the results under a token that shows the given at its looks -/
def results (e : Execution) (shows : Nat → Bool) : List Result := e.resultsFrom (.start shows)

end Execution

/-! ## starting -/

namespace Run

/-- the rules of some patterns, none begun -/
def start (run : Run) (patterns : List Pattern) : Execution :=
  ⟨run, patterns.flatMap fun p => p.rules.map (.new p)⟩

/-- the results of one rule alone -/
def ruleResults (run : Run) (p : Pattern) (r : Rule) (shows : Nat → Bool) : List Result :=
  Execution.results ⟨run, [.new p r]⟩ shows

end Run

namespace Schema

/-- a run of a schema on a document with some options -/
def runOf (s : Schema) (d : Document) (root : Node) (filter : AssertionFilter)
    (options : ExecutionOptions) (now : Time.Instant) : Run :=
  ⟨s, d, root, filter, options.maxDepth, options.stopOnFirstFailure, now⟩

/-- an execution of all patterns with the standard options -/
def execute (s : Schema) (d : Document) (root : Node) (filter : AssertionFilter)
    (now : Time.Instant) : Execution :=
  (s.runOf d root filter .standard now).start s.patterns

/-- an execution of the patterns that the options select; wrong options are found before any
result -/
def executeWith (s : Schema) (d : Document) (root : Node) (filter : AssertionFilter)
    (options : ExecutionOptions) (now : Time.Instant) : Except ValidationError Execution := do
  options.validate.mapError .options
  let patterns ← s.activePatterns options.selectedPhase
  return (s.runOf d root filter options now).start patterns

end Schema

end Rulebook
