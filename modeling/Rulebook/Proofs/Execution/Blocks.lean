import Rulebook.Document.Invoice
import Rulebook.Schema.Execution

/-!
# The results of a run, rule by rule

An execution is two cursors inside one another: one over the rules and one over the assertions of
the rule that is begun.  Here it is read as a list:

* `RuleExecution.Step`  all that one look at the token can lead to in a rule;
* `Run.block`           the results of one rule of a run that nobody cancels;
* `Run.IsBlock`         what a block is made of: nothing, one refusal, or one result for each
                        accepted assertion;
* `Execution.answerFrom`  what the calls of `next` give, one after the other.

`answer_executeWith`: **the calls of `next` give the blocks of the selected rules, one result after
the other, and nothing from then on.**
-/

set_option autoImplicit false

namespace Rulebook

/-! ## the answers to calls -/

namespace Execution

/-- what the call with a number gives, the first being number zero -/
def answerFrom (w : Watch) (e : Execution) : Nat → Option Result
  | 0 => (e.next w).1
  | i + 1 => answerFrom (e.next w).2.2 (e.next w).2.1 i

/-- a list that loses its head with each call is the list of the answers -/
theorem answerFrom_eq_getElem? (Inv : Watch → Execution → Prop)
    (expected : Watch → Execution → List Result)
    (head : ∀ w e, Inv w e → (e.next w).1 = (expected w e).head?)
    (tail : ∀ w e, Inv w e → Inv (e.next w).2.2 (e.next w).2.1 ∧
      expected (e.next w).2.2 (e.next w).2.1 = (expected w e).tail)
    (i : Nat) : ∀ w e, Inv w e → e.answerFrom w i = (expected w e)[i]? := by
  induction i with
  | zero =>
    intro w e h
    show (e.next w).1 = _
    rw [head w e h, List.head?_eq_getElem?]
  | succ i ih =>
    intro w e h
    obtain ⟨h', ht⟩ := tail w e h
    show answerFrom _ _ i = _
    rw [ih _ _ h', ht, List.getElem?_tail]

theorem resultsFrom_of_some {w w' : Watch} {e e' : Execution} {result : Result}
    (h : e.next w = (some result, e', w')) : e.resultsFrom w = result :: e'.resultsFrom w' := by
  rw [resultsFrom]
  split
  · next h' =>
    rw [h] at h'
    obtain ⟨rfl, rfl, rfl⟩ := h'
    rfl
  · next h' =>
    rw [h] at h'
    cases h'

theorem resultsFrom_of_none {w w' : Watch} {e e' : Execution} (h : e.next w = (none, e', w')) :
    e.resultsFrom w = [] := by
  rw [resultsFrom]
  split
  · next h' =>
    rw [h] at h'
    cases h'
  · rfl

end Execution

/-! ## what one look can lead to -/

namespace RuleExecution

/-- the assertions that remain and that the filter accepts -/
def accepted (run : Run) (e : RuleExecution) : List Assertion := e.rest.filter run.filter

/-- a result of a rule and what remains of it, by what the token shows -/
inductive Step (run : Run) (e : RuleExecution) : Bool → Result → RuleExecution → Prop
  | cancelled {a as} (accepted : e.accepted run = a :: as) :
    Step run e true (.cancelled e.pattern e.rule a) e.ended
  | refused {a as error} (accepted : e.accepted run = a :: as)
    (prepared : e.prepared run = .error error) :
    Step run e false (.ruleFailure e.pattern e.rule error) e.ended
  | judged {a ns rest} (accepted : e.accepted run = a :: rest.filter run.filter)
    (prepared : e.prepared run = .ok ns) :
    Step run e false (run.resultOf e.pattern e.rule a ns) { e with nodes := some ns, rest }

theorem accepted_ended (run : Run) (e : RuleExecution) : e.ended.accepted run = [] := rfl

theorem accepted_eq_filter_dropWhile (run : Run) (e : RuleExecution) :
    e.accepted run = (e.rest.dropWhile fun a => !run.filter a).filter run.filter := by
  unfold accepted
  induction e.rest with
  | nil => rfl
  | cons a rest ih =>
    cases h : run.filter a with
    | true => simp [h]
    | false => simp [h, ih]

/-- without an accepted assertion nothing happens, and the token is not looked at; else the look
decides -/
theorem next_cases (run : Run) (w : Watch) (e : RuleExecution) :
    (e.accepted run = [] ∧ e.next run w = (none, e.ended, w)) ∨
      ∃ result e', e.next run w = (some result, e', w.look.2) ∧
        e.Step run w.look.1 result e' := by
  have hacc := e.accepted_eq_filter_dropWhile run
  unfold next
  cases hd : e.rest.dropWhile fun a => !run.filter a with
  | nil =>
    rw [hd] at hacc
    exact .inl ⟨hacc, rfl⟩
  | cons a rest =>
    have ha : run.filter a = true := by
      have h := List.head?_dropWhile_not (fun a => !run.filter a) e.rest
      rw [hd] at h
      simpa using h
    rw [hd, List.filter_cons_of_pos ha] at hacc
    refine .inr ?_
    cases hl : w.look.1 with
    | true => exact ⟨_, _, rfl, .cancelled hacc⟩
    | false =>
      cases hp : e.prepared run with
      | error error => exact ⟨_, _, rfl, .refused hacc hp⟩
      | ok ns => exact ⟨_, _, rfl, .judged hacc hp⟩

/-- what a step leaves is about the same rule -/
theorem Step.same_rule {run : Run} {e e' : RuleExecution} {shown : Bool} {result : Result}
    (h : e.Step run shown result e') : e'.pattern = e.pattern ∧ e'.rule = e.rule := by
  cases h <;> exact ⟨rfl, rfl⟩

end RuleExecution

namespace Execution

/-- the first rule with an accepted assertion makes the step, those before it are dropped -/
theorem nextOf_cases (run : Run) (w : Watch) (rules : List RuleExecution) :
    ((∀ e ∈ rules, e.accepted run = []) ∧ nextOf run w rules = (none, [], w)) ∨
      ∃ silent e rest result e', rules = silent ++ e :: rest ∧
        (∀ e ∈ silent, e.accepted run = []) ∧ e.Step run w.look.1 result e' ∧
        nextOf run w rules = (some result, e' :: rest, w.look.2) := by
  induction rules with
  | nil => exact .inl ⟨fun _ h => absurd h List.not_mem_nil, rfl⟩
  | cons e rest ih =>
    rcases e.next_cases run w with ⟨hnone, hnext⟩ | ⟨result, e', hnext, hstep⟩
    · have hskip : nextOf run w (e :: rest) = nextOf run w rest := by
        rw [nextOf, hnext]
      rw [hskip]
      rcases ih with ⟨hall, hn⟩ | ⟨silent, e₁, rest₁, result, e', rfl, hsilent, hstep, hn⟩
      · exact .inl ⟨List.forall_mem_cons.mpr ⟨hnone, hall⟩, hn⟩
      · exact .inr ⟨e :: silent, e₁, rest₁, result, e', rfl,
          List.forall_mem_cons.mpr ⟨hnone, hsilent⟩, hstep, hn⟩
    · refine .inr ⟨[], e, rest, result, e', rfl, fun _ h => absurd h List.not_mem_nil, hstep, ?_⟩
      rw [nextOf, hnext]

/-- a run that goes on after failures only moves its cursors -/
theorem next_of_lenient {run : Run} (h : run.stopOnFirstFailure = false) (w : Watch)
    (rules : List RuleExecution) :
    next ⟨run, rules⟩ w = ((nextOf run w rules).1, ⟨run, (nextOf run w rules).2.1⟩,
      (nextOf run w rules).2.2) := by
  unfold next
  simp only [h, Bool.false_and]
  split
  next hn => rw [hn]; rfl
  next hn => rw [hn]

/-- once a call gives nothing, no rule remains -/
theorem rules_of_next_none {w w' : Watch} {e e' : Execution} (h : e.next w = (none, e', w')) :
    e'.rules = [] := by
  unfold next at h
  split at h
  · split at h <;> cases h
  · next rules w₁ hn =>
    obtain ⟨-, rfl, -⟩ := h
    rcases nextOf_cases e.run w e.rules with ⟨-, hn'⟩ | ⟨_, _, _, _, _, -, -, -, hn'⟩
    · rw [hn'] at hn
      cases hn
      rfl
    · rw [hn'] at hn
      cases hn

theorem resultsFrom_of_rules_nil {w : Watch} {e : Execution} (h : e.rules = []) :
    e.resultsFrom w = [] := by
  have hn : e.next w = (none, { e with rules := [] }, w) := by
    unfold next
    rw [h]
    rfl
  exact resultsFrom_of_none hn

/-- the results up to the end are the answers to the calls, also to those after the end -/
theorem answerFrom_eq_resultsFrom (w : Watch) (e : Execution) (i : Nat) :
    e.answerFrom w i = (e.resultsFrom w)[i]? := by
  refine answerFrom_eq_getElem? (fun _ _ => True) (fun w e => e.resultsFrom w) ?_ ?_ i w e trivial
  · intro w e _
    rcases hn : e.next w with ⟨_ | result, e', w'⟩
    · rw [resultsFrom_of_none hn]
      rfl
    · rw [resultsFrom_of_some hn]
      rfl
  · intro w e _
    refine ⟨trivial, ?_⟩
    rcases hn : e.next w with ⟨_ | result, e', w'⟩
    · rw [resultsFrom_of_none hn]
      exact resultsFrom_of_rules_nil (rules_of_next_none hn)
    · rw [resultsFrom_of_some hn]
      rfl

/-- after the first call that gives nothing no call gives anything -/
theorem answerFrom_none_of_le {w : Watch} {e : Execution} {i j : Nat}
    (h : e.answerFrom w i = none) (hij : i ≤ j) : e.answerFrom w j = none := by
  rw [answerFrom_eq_resultsFrom, List.getElem?_eq_none_iff] at h ⊢
  exact Nat.le_trans h hij

end Execution

/-! ## what a result depends on -/

namespace Run
variable {run run' : Run}

theorem firstFailure_congr (hcontext : run'.context = run.context) (p : Pattern) (r : Rule)
    (kind : AssertionKind) (test : Compiled) (size i : Nat) (ns : List Node) :
    run'.firstFailure p r kind test size i ns = run.firstFailure p r kind test size i ns := by
  induction ns generalizing i with
  | nil => rfl
  | cons n ns ih =>
    rw [firstFailure, firstFailure, ih, hcontext]

/-- the result of an assertion depends on the schema and on the contexts of the run alone -/
theorem resultOf_congr (hschema : run'.schema = run.schema) (hcontext : run'.context = run.context)
    (p : Pattern) (r : Rule) (a : Assertion) (ns : List Node) :
    run'.resultOf p r a ns = run.resultOf p r a ns := by
  unfold resultOf
  simp only [firstFailure_congr hcontext, hschema]

/-- what the result of an assertion takes from the assertion alone, it takes unchanged -/
theorem resultOf_shape (run : Run) (p : Pattern) (r : Rule) (a : Assertion) (ns : List Node) :
    ∃ total pass message error,
      run.resultOf p r a ns = { Result.ofAssertion p r a with total, pass, message, error } := by
  unfold resultOf
  cases compile a.test run.schema.binding .full with
  | error e => exact ⟨_, _, _, _, rfl⟩
  | ok test =>
    cases hf : run.firstFailure p r a.kind test ns.length 0 ns with
    | error e =>
      simp only [hf]
      exact ⟨_, _, _, _, rfl⟩
    | ok failure =>
      cases failure with
      | none =>
        simp only [hf]
        exact ⟨_, _, _, _, rfl⟩
      | some found =>
        simp only [hf]
        exact ⟨_, _, _, _, rfl⟩

end Run

/-! ## the block of a rule -/

namespace Run

/-- the results of some assertions of a rule, by whether the rule can be run -/
def blockOf (run : Run) (p : Pattern) (r : Rule) (as : List Assertion) :
    Except ValidationError (List Node) → List Result
  | .ok ns => as.map fun a => run.resultOf p r a ns
  | .error error => if as.isEmpty then [] else [.ruleFailure p r error]

/-- the results of a rule of a run that nobody cancels -/
def block (run : Run) (p : Pattern) (r : Rule) : List Result :=
  run.blockOf p r (r.assertions.filter run.filter) (run.prepare p r)

/-- why a rule cannot be run -/
inductive Refuses (run : Run) (p : Pattern) (r : Rule) : Prop
  /-- its selector does not compile -/
  | selector {e} (h : compileSelector r.context run.schema.binding = .error e)
  /-- an accepted test does not compile -/
  | test {a e} (mem : a ∈ r.assertions) (accepted : run.filter a = true)
    (h : compile a.test run.schema.binding .full = .error e)
  /-- its selector cannot be evaluated -/
  | evaluation {s e} (compiles : compileSelector r.context run.schema.binding = .ok s)
    (h : s.evaluate (run.context p r run.root 1 1) = .error e)
  /-- its selector yields a literal -/
  | literal {s v a} (compiles : compileSelector r.context run.schema.binding = .ok s)
    (h : s.evaluate (run.context p r run.root 1 1) = .ok v) (mem : Item.atomic a ∈ v)

/-- the nodes that the selector of a rule yields, in document order -/
inductive Selects (run : Run) (p : Pattern) (r : Rule) : List Node → Prop
  | nodes {s found} (compiles : compileSelector r.context run.schema.binding = .ok s)
    (h : s.evaluate (run.context p r run.root 1 1) = .ok (.ofNodes found)) :
    Selects run p r (Node.inOrder found)

/-- what the results of a rule can be -/
inductive IsBlock (run : Run) (p : Pattern) (r : Rule) : List Result → Prop
  /-- no assertion is accepted -/
  | silent (h : ∀ a ∈ r.assertions, run.filter a = false) : IsBlock run p r []
  /-- one fatal failure stands for the rule -/
  | refused {result} (accepted : ∃ a ∈ r.assertions, run.filter a = true)
    (h : run.Refuses p r) (id : result.id = ruleResultId) (fatal : result.isFatalFailure = true)
    (total : result.total = 0) (pass : result.pass = 0) : IsBlock run p r [result]
  /-- one result for each accepted assertion, in their order -/
  | judged {ns} (accepted : ∃ a ∈ r.assertions, run.filter a = true) (h : ¬ run.Refuses p r)
    (nodes : run.Selects p r ns) :
    IsBlock run p r ((r.assertions.filter run.filter).map fun a => run.resultOf p r a ns)

end Run

/-! ### preparing -/

theorem Value.not_atomic_mem_ofNodes (a : Atomic) (ns : List Node) :
    Item.atomic a ∉ ofNodes ns := by
  intro h
  obtain ⟨n, -, hn⟩ := List.mem_map.mp h
  cases hn

namespace Run

/-- tests are compiled up to the first that does not -/
theorem checkTests_cases (b : Binding) (as : List Assertion) :
    ((∀ a ∈ as, ∃ c, compile a.test b .full = .ok c) ∧ checkTests b as = .ok ()) ∨
      ∃ a ∈ as, ∃ e, compile a.test b .full = .error e ∧ checkTests b as = .error (.compile e) := by
  induction as with
  | nil => exact .inl ⟨fun _ h => absurd h List.not_mem_nil, rfl⟩
  | cons a as ih =>
    cases ha : compile a.test b .full with
    | error e => exact .inr ⟨a, List.mem_cons_self, e, ha, checkTests_of_error ha as⟩
    | ok c =>
      rw [checkTests_of_ok ha]
      rcases ih with ⟨hall, hok⟩ | ⟨a', hmem, e, he, herr⟩
      · exact .inl ⟨List.forall_mem_cons.mpr ⟨⟨c, ha⟩, hall⟩, hok⟩
      · exact .inr ⟨a', List.mem_cons_of_mem _ hmem, e, he, herr⟩

/-- what compiles to one thing refuses nothing -/
theorem not_refuses {run : Run} {p : Pattern} {r : Rule} {s : Compiled} {ns : List Node}
    (hs : compileSelector r.context run.schema.binding = .ok s)
    (htests : ∀ a ∈ r.assertions.filter run.filter,
      ∃ c, compile a.test run.schema.binding .full = .ok c)
    (hv : s.evaluate (run.context p r run.root 1 1) = .ok (.ofNodes ns)) :
    ¬ run.Refuses p r := by
  intro h
  cases h with
  | selector h =>
    rw [hs] at h
    cases h
  | test mem accepted h =>
    obtain ⟨c, hc⟩ := htests _ (List.mem_filter.mpr ⟨mem, accepted⟩)
    rw [hc] at h
    cases h
  | evaluation compiles h =>
    rw [hs] at compiles
    cases compiles
    rw [hv] at h
    cases h
  | literal compiles h mem =>
    rw [hs] at compiles
    cases compiles
    rw [hv] at h
    cases h
    exact Value.not_atomic_mem_ofNodes _ _ mem

/-- a rule is refused or prepared, as its selector and its accepted tests say -/
theorem prepare_cases (run : Run) (p : Pattern) (r : Rule) :
    (run.Refuses p r ∧ ∃ error, run.prepare p r = .error error) ∨
      (¬ run.Refuses p r ∧ ∃ ns, run.Selects p r ns ∧ run.prepare p r = .ok ns) := by
  cases hs : compileSelector r.context run.schema.binding with
  | error e =>
    refine .inl ⟨.selector hs, .compile e, ?_⟩
    unfold prepare
    rw [hs]
    rfl
  | ok s =>
    rcases checkTests_cases run.schema.binding (r.assertions.filter run.filter) with
      ⟨htests, hok⟩ | ⟨a, hmem, e, he, herr⟩
    · have hselect : run.prepare p r = run.select p r s := by
        unfold prepare
        rw [hs, hok]
        rfl
      rw [hselect]
      cases hv : s.evaluate (run.context p r run.root 1 1) with
      | error e => exact .inl ⟨.evaluation hs hv, select_of_error hv⟩
      | ok v =>
        rcases select_of_ok hv with ⟨ns, rfl, hn⟩ | ⟨a, error, ha, hn⟩
        · exact .inr ⟨not_refuses hs htests hv, _, .nodes hs hv, hn⟩
        · exact .inl ⟨.literal hs hv ha, error, hn⟩
    · obtain ⟨hmem, haccepted⟩ := List.mem_filter.mp hmem
      refine .inl ⟨.test hmem haccepted he, .compile e, ?_⟩
      unfold prepare
      rw [hs, herr]
      rfl

theorem block_of_ok {run : Run} {p : Pattern} {r : Rule} {ns : List Node}
    (h : run.prepare p r = .ok ns) :
    run.block p r = (r.assertions.filter run.filter).map fun a => run.resultOf p r a ns := by
  unfold block
  rw [h]
  rfl

/-- **The block of every rule is of one of the three kinds.** -/
theorem isBlock_block (run : Run) (p : Pattern) (r : Rule) : run.IsBlock p r (run.block p r) := by
  by_cases hacc : ∃ a ∈ r.assertions, run.filter a = true
  · rcases run.prepare_cases p r with ⟨hrefuses, error, herr⟩ | ⟨hnot, ns, hns, hok⟩
    · obtain ⟨a, ha, hfilter⟩ := hacc
      have hne : (r.assertions.filter run.filter).isEmpty = false := by
        rw [List.isEmpty_eq_false_iff]
        exact List.ne_nil_of_mem (List.mem_filter.mpr ⟨ha, hfilter⟩)
      have hblock : run.block p r = [.ruleFailure p r error] := by
        unfold block blockOf
        rw [herr, hne]
        rfl
      rw [hblock]
      exact .refused ⟨a, ha, hfilter⟩ hrefuses rfl rfl rfl rfl
    · rw [block_of_ok hok]
      exact .judged hacc hnot hns
  · have hrejected : ∀ a ∈ r.assertions, run.filter a = false := fun a ha =>
      Bool.eq_false_iff.mpr fun h => hacc ⟨a, ha, h⟩
    have hnil : r.assertions.filter run.filter = [] :=
      List.filter_eq_nil_iff.mpr fun a ha => by simp [hrejected a ha]
    have hblock : run.block p r = [] := by
      unfold block blockOf
      rw [hnil]
      cases run.prepare p r <;> rfl
    rw [hblock]
    exact .silent hrejected

end Run

/-! ## the blocks of a run -/

namespace RuleExecution

/-- the results that remain of a rule of a run that nobody cancels -/
def remainder (run : Run) (e : RuleExecution) : List Result :=
  run.blockOf e.pattern e.rule (e.accepted run) (e.prepared run)

theorem remainder_of_silent {run : Run} {e : RuleExecution} (h : e.accepted run = []) :
    e.remainder run = [] := by
  unfold remainder Run.blockOf
  rw [h]
  cases e.prepared run <;> rfl

/-- a look that shows nothing gives the first of the results that remain and leaves the others -/
theorem Step.remainder_eq {run : Run} {e e' : RuleExecution} {result : Result}
    (h : e.Step run false result e') : e.remainder run = result :: e'.remainder run := by
  cases h with
  | refused accepted prepared =>
    rw [remainder_of_silent (accepted_ended run e)]
    unfold remainder
    rw [accepted, prepared]
    rfl
  | judged accepted prepared =>
    unfold remainder
    rw [accepted, prepared]
    rfl

end RuleExecution

namespace Execution

theorem flatMap_remainder_of_silent {run : Run} {rules : List RuleExecution}
    (h : ∀ e ∈ rules, e.accepted run = []) : rules.flatMap (·.remainder run) = [] :=
  List.flatMap_eq_nil_iff.mpr fun e he => RuleExecution.remainder_of_silent (h e he)

/-- one call under a token that shows nothing takes the first of the results that remain -/
theorem nextOf_of_quiet {run : Run} {w : Watch} (hw : w.look.1 = false)
    (rules : List RuleExecution) :
    (nextOf run w rules).1 = (rules.flatMap (·.remainder run)).head? ∧
      (nextOf run w rules).2.1.flatMap (·.remainder run) =
        (rules.flatMap (·.remainder run)).tail := by
  rcases nextOf_cases run w rules with
    ⟨hall, hn⟩ | ⟨silent, e, rest, result, e', rfl, hsilent, hstep, hn⟩
  · rw [hn, flatMap_remainder_of_silent hall]
    exact ⟨rfl, rfl⟩
  · rw [hw] at hstep
    rw [hn, List.flatMap_append, flatMap_remainder_of_silent hsilent, List.flatMap_cons,
      hstep.remainder_eq]
    exact ⟨rfl, rfl⟩

theorem shows_nextOf (run : Run) (w : Watch) (rules : List RuleExecution) :
    (nextOf run w rules).2.2.shows = w.shows := by
  rcases nextOf_cases run w rules with ⟨-, hn⟩ | ⟨_, _, _, _, _, -, -, -, hn⟩
  · rw [hn]
  · rw [hn]
    rfl

/-- the answers of a run that nobody cancels are the results that remain -/
theorem answerFrom_of_quiet {run : Run} (hstop : run.stopOnFirstFailure = false) {w : Watch}
    (hw : ∀ k, w.shows k = false) (rules : List RuleExecution) (i : Nat) :
    answerFrom w ⟨run, rules⟩ i = (rules.flatMap (·.remainder run))[i]? := by
  refine answerFrom_eq_getElem? (fun w e => e.run = run ∧ ∀ k, w.shows k = false)
    (fun _ e => e.rules.flatMap (·.remainder run)) ?_ ?_ i w ⟨run, rules⟩ ⟨rfl, hw⟩
  · rintro w ⟨_, rules⟩ ⟨rfl, hw⟩
    rw [next_of_lenient hstop]
    exact (nextOf_of_quiet (hw _) rules).1
  · rintro w ⟨_, rules⟩ ⟨rfl, hw⟩
    rw [next_of_lenient hstop]
    refine ⟨⟨rfl, ?_⟩, (nextOf_of_quiet (hw _) rules).2⟩
    intro k
    show (nextOf _ w rules).2.2.shows k = false
    rw [shows_nextOf]
    exact hw k

theorem results_of_quiet {run : Run} (hstop : run.stopOnFirstFailure = false)
    (rules : List RuleExecution) :
    results ⟨run, rules⟩ (fun _ => false) = rules.flatMap (·.remainder run) := by
  apply List.ext_getElem?
  intro i
  show (resultsFrom _ _)[i]? = _
  rw [← answerFrom_eq_resultsFrom, answerFrom_of_quiet hstop fun _ => rfl]

end Execution

/-! ## starting -/

/-- options that a schema can be run with -/
structure ExecutionOptions.Fits (o : ExecutionOptions) (s : Schema) : Prop where
  depth : 1 ≤ o.maxDepth
  phase : ∀ id, o.phase = some id → id = allPhases ∨ ∃ ph ∈ s.phases, ph.id = id

namespace Schema

/-- the patterns that some options select, in the order of the schema -/
def selected (s : Schema) (o : ExecutionOptions) : List Pattern :=
  match o.phase with
  | none => s.patterns
  | some id =>
    if id = allPhases then s.patterns
    else s.patterns.filter fun p => (s.phase? id).any fun ph => ph.active.contains p.id

/-- the rules of some patterns, each with its pattern -/
def rulesOf (ps : List Pattern) : List (Pattern × Rule) := ps.flatMap fun p => p.rules.map (p, ·)

theorem activePatterns_of_fits {s : Schema} {o : ExecutionOptions} (h : o.Fits s) :
    s.activePatterns o.selectedPhase = .ok (s.selected o) := by
  unfold selected ExecutionOptions.selectedPhase
  cases hp : o.phase with
  | none => rfl
  | some id =>
    by_cases hid : id = allPhases
    · subst hid
      rfl
    · have hfilter : (some id).filter (· != allPhases) = some id := by simp [hid]
      have hsome : (s.phase? id).isSome := by
        obtain hall | ⟨ph, hmem, hph⟩ := h.phase id hp
        · exact absurd hall hid
        · exact List.find?_isSome.mpr ⟨ph, hmem, by simp [hph]⟩
      obtain ⟨ph, hph⟩ := Option.isSome_iff_exists.mp hsome
      rw [hfilter]
      simp only [activePatterns, hph, if_neg hid, Option.any_some]

theorem executeWith_of_fits {s : Schema} {o : ExecutionOptions} (h : o.Fits s) (d : Document)
    (root : Node) (filter : AssertionFilter) (now : Time.Instant) :
    s.executeWith d root filter o now =
      .ok ((s.runOf d root filter o now).start (s.selected o)) := by
  have hvalid : o.validate = .ok () := if_neg (Nat.ne_of_gt h.depth)
  unfold executeWith
  rw [hvalid, activePatterns_of_fits h]
  rfl

theorem executeWith_of_zeroDepth {o : ExecutionOptions} (h : o.maxDepth = 0) (s : Schema)
    (d : Document) (root : Node) (filter : AssertionFilter) (now : Time.Instant) :
    s.executeWith d root filter o now = .error (.options .zeroDepth) := by
  have hinvalid : o.validate = .error .zeroDepth := if_pos h
  unfold executeWith
  rw [hinvalid]
  rfl

theorem executeWith_of_unknown {s : Schema} {o : ExecutionOptions} {id : String}
    (hdepth : 1 ≤ o.maxDepth) (hphase : o.phase = some id) (hid : id ≠ allPhases)
    (h : ∀ ph ∈ s.phases, ph.id ≠ id) (d : Document) (root : Node) (filter : AssertionFilter)
    (now : Time.Instant) : s.executeWith d root filter o now = .error (.unknownPhase id) := by
  have hvalid : o.validate = .ok () := if_neg (Nat.ne_of_gt hdepth)
  have hselected : o.selectedPhase = some id := by simp [ExecutionOptions.selectedPhase, hphase, hid]
  unfold executeWith
  rw [hvalid, hselected, activePatterns_of_unknown h]
  rfl

/-- options that do not fit are refused for a reason of their own, whatever is to be run -/
theorem executeWith_of_not_fits {s : Schema} {o : ExecutionOptions} (h : ¬ o.Fits s) :
    ∃ error, ∀ stop d root filter now,
      s.executeWith d root filter { o with stopOnFirstFailure := stop } now = .error error := by
  rcases Nat.eq_zero_or_pos o.maxDepth with hzero | hdepth
  · exact ⟨_, fun _ => executeWith_of_zeroDepth (by exact hzero) s⟩
  · have hphase : ∃ id, o.phase = some id ∧ id ≠ allPhases ∧ ∀ ph ∈ s.phases, ph.id ≠ id := by
      refine Classical.byContradiction fun hno => h ⟨hdepth, fun id hid => ?_⟩
      refine Classical.byContradiction fun hunknown => ?_
      obtain ⟨hall, hph⟩ := not_or.mp hunknown
      exact hno ⟨id, hid, hall, fun ph hmem heq => hph ⟨ph, hmem, heq⟩⟩
    obtain ⟨id, hid, hall, hunknown⟩ := hphase
    exact ⟨_, fun _ => executeWith_of_unknown (by exact hdepth) hid hall hunknown⟩

end Schema

theorem Run.rules_start (run : Run) (ps : List Pattern) :
    (run.start ps).rules = (Schema.rulesOf ps).map fun x => .new x.1 x.2 := by
  unfold Schema.rulesOf
  rw [List.map_flatMap]
  simp only [List.map_map]
  rfl

theorem Run.flatMap_remainder_start (run : Run) (ps : List Pattern) :
    (run.start ps).rules.flatMap (·.remainder run) =
      (Schema.rulesOf ps).flatMap fun x => run.block x.1 x.2 := by
  rw [run.rules_start, List.flatMap_map]
  rfl

/-- the whole run of some patterns that nobody cancels -/
theorem Run.results_start {run : Run} (hstop : run.stopOnFirstFailure = false)
    (ps : List Pattern) :
    (run.start ps).results (fun _ => false) =
      (Schema.rulesOf ps).flatMap fun x => run.block x.1 x.2 := by
  rw [← run.flatMap_remainder_start]
  exact Execution.results_of_quiet hstop _

section
variable {s : Schema} {o : ExecutionOptions}

/-- **The calls of `next` give the blocks of the selected rules**, each of one of the three kinds,
one result after the other, and nothing once they have given nothing. -/
theorem answer_executeWith (h : o.Fits s) (hstop : o.stopOnFirstFailure = false) (d : Document)
    (root : Node) (filter : AssertionFilter) (now : Time.Instant) :
    ∃ e, s.executeWith d root filter o now = .ok e ∧
      (∀ i, e.answerFrom (.start fun _ => false) i =
        ((Schema.rulesOf (s.selected o)).flatMap fun x =>
          (s.runOf d root filter o now).block x.1 x.2)[i]?) ∧
      (∀ p r, (s.runOf d root filter o now).IsBlock p r
        ((s.runOf d root filter o now).block p r)) ∧
      ∀ i j, e.answerFrom (.start fun _ => false) i = none → i ≤ j →
        e.answerFrom (.start fun _ => false) j = none := by
  refine ⟨_, Schema.executeWith_of_fits h d root filter now, ?_, Run.isBlock_block _,
    fun i j => Execution.answerFrom_none_of_le⟩
  intro i
  rw [← Run.flatMap_remainder_start]
  exact Execution.answerFrom_of_quiet hstop (fun _ => rfl) _ i

end

/-- items that need a quantity, notes about a literal, and an order that nobody asks about -/
def invoiceSchema : Schema :=
  { title := "Invoices", binding := .xpath1, declarations := ∅, namespaces := ∅,
    phases := [⟨"quick", ["items", "notes"]⟩],
    patterns := [
      { id := "items", title := none, declarations := ∅, rules := [
          { id := none, context := "item", declarations := ∅, assertions := [
              .new "quantity" .assert .fatal "@qty > 0" (.parse "{@sku} has no quantity"),
              .new "sku" .assert .warning "@sku" (.parse "no sku")] }] },
      { id := "notes", title := none, declarations := ∅, rules := [
          { id := none, context := "'note'", declarations := ∅, assertions := [
              .new "text" .assert .info "." (.parse "empty note"),
              .new "language" .assert .info "@xml:lang" (.parse "no language")] }] },
      { id := "orders", title := none, declarations := ∅, rules := [
          { id := none, context := "order", declarations := ∅, assertions := [
              .new "order" .report .info "true()" (.parse "an order")] }] }] }

theorem answer_executeWith_invoice : ∃ e,
    invoiceSchema.executeWith invoice .root .all ⟨some "quick", 1, false⟩ ⟨0, 0, 0⟩ = .ok e ∧
      ∀ i, (e.answerFrom (.start fun _ => false) i).map (fun r => (r.id, r.pass, r.total)) =
        [("quantity", 1, 2), ("sku", 2, 2), ("RULE", 0, 0)][i]? := by
  have hfits : ExecutionOptions.Fits ⟨some "quick", 1, false⟩ invoiceSchema :=
    ⟨by decide, fun id hid => .inr ⟨_, List.mem_singleton_self _, by cases hid; rfl⟩⟩
  have hblocks : ((Schema.rulesOf (invoiceSchema.selected ⟨some "quick", 1, false⟩)).flatMap
      fun x => (invoiceSchema.runOf invoice .root .all ⟨some "quick", 1, false⟩ ⟨0, 0, 0⟩).block
        x.1 x.2).map (fun r => (r.id, r.pass, r.total)) =
      [("quantity", 1, 2), ("sku", 2, 2), ("RULE", 0, 0)] := by
    decide +kernel
  obtain ⟨e, he, hanswers, -, -⟩ :=
    answer_executeWith hfits rfl invoice .root .all ⟨0, 0, 0⟩
  refine ⟨e, he, fun i => ?_⟩
  rw [hanswers, ← List.getElem?_map, hblocks]

end Rulebook
