import Rulebook.Proofs.Execution.Blocks

/-!
# Runs that are cancelled on the way

A token that shows a cancellation from its look number `k` on cuts the run after `k` results: each
look belongs to one result.

* `Run.unreached`      the accepted assertions of a rule that a cut leaves without a result;
* `Run.cancellations`  one cancellation for each rule with an assertion left.

`results_executeWith_cut`: **a cut run gives the first results of the run that nobody cancels, then
its cancellations.**
-/

set_option autoImplicit false

namespace Rulebook

/-! ## what a cut leaves -/

namespace Run

/-- the assertions that a cut after some results of their rule leaves; a rule that cannot be run
has no more results after its first -/
def unreachedOf (as : List Assertion) :
    Except ValidationError (List Node) → Nat → List Assertion
  | .error _, _ + 1 => []
  | _, k => as.drop k

def unreached (run : Run) (p : Pattern) (r : Rule) (k : Nat) : List Assertion :=
  unreachedOf (r.assertions.filter run.filter) (run.prepare p r) k

/-- the results after a cut, which comes `k` results after the beginning of the rules -/
def cancellations (run : Run) : Nat → List (Pattern × Rule) → List Result
  | _, [] => []
  | k, (p, r) :: rest =>
    ((run.unreached p r k).head?.map (Result.cancelled p r)).toList ++
      run.cancellations (k - (run.block p r).length) rest

end Run

namespace RuleExecution

def unreached (run : Run) (e : RuleExecution) (k : Nat) : List Assertion :=
  Run.unreachedOf (e.accepted run) (e.prepared run) k

theorem unreached_zero (run : Run) (e : RuleExecution) : e.unreached run 0 = e.accepted run := by
  unfold unreached Run.unreachedOf
  cases e.prepared run <;> rfl

theorem unreached_of_silent {run : Run} {e : RuleExecution} (h : e.accepted run = []) (k : Nat) :
    e.unreached run k = [] := by
  unfold unreached
  rw [h]
  cases e.prepared run <;> cases k <;> rfl

/-- one result more before the cut is one assertion less after it -/
theorem Step.unreached_succ {run : Run} {e e' : RuleExecution} {result : Result}
    (h : e.Step run false result e') (k : Nat) : e.unreached run (k + 1) = e'.unreached run k := by
  cases h with
  | refused accepted prepared =>
    rw [unreached_of_silent (accepted_ended run e)]
    unfold unreached
    rw [prepared]
    rfl
  | judged accepted prepared =>
    unfold unreached
    rw [accepted, prepared]
    rfl

end RuleExecution

/-! ## cancellations step by step -/

namespace Execution

/-- the results after a cut that comes `k` results from now -/
def cancellations (run : Run) : Nat → List RuleExecution → List Result
  | _, [] => []
  | k, e :: rest =>
    ((e.unreached run k).head?.map (Result.cancelled e.pattern e.rule)).toList ++
      cancellations run (k - (e.remainder run).length) rest

theorem cancellations_append_of_silent {run : Run} {silent : List RuleExecution}
    (h : ∀ e ∈ silent, e.accepted run = []) (k : Nat) (rules : List RuleExecution) :
    cancellations run k (silent ++ rules) = cancellations run k rules := by
  induction silent with
  | nil => rfl
  | cons e silent ih =>
    obtain ⟨he, hsilent⟩ := List.forall_mem_cons.mp h
    rw [List.cons_append, cancellations, RuleExecution.unreached_of_silent he,
      RuleExecution.remainder_of_silent he]
    exact ih hsilent

theorem cancellations_of_silent {run : Run} {rules : List RuleExecution}
    (h : ∀ e ∈ rules, e.accepted run = []) (k : Nat) : cancellations run k rules = [] := by
  rw [← List.append_nil rules, cancellations_append_of_silent h]
  rfl

/-- a result before the cut does not change what comes after it -/
theorem cancellations_succ {run : Run} {e e' : RuleExecution} {result : Result}
    (h : e.Step run false result e') (k : Nat) (rest : List RuleExecution) :
    cancellations run (k + 1) (e :: rest) = cancellations run k (e' :: rest) := by
  obtain ⟨hp, hr⟩ := h.same_rule
  unfold cancellations
  rw [h.unreached_succ, h.remainder_eq, hp, hr, List.length_cons, Nat.add_sub_add_right]

/-- at the cut each rule gives one cancellation, for its first assertion -/
theorem cancellations_zero {run : Run} {e e' : RuleExecution} {result : Result}
    (h : e.Step run true result e') (rest : List RuleExecution) :
    cancellations run 0 (e :: rest) = result :: cancellations run 0 (e' :: rest) := by
  cases h with
  | cancelled accepted =>
    have hsilent : ∀ e' ∈ [e.ended], e'.accepted run = [] :=
      List.forall_mem_singleton.mpr (RuleExecution.accepted_ended run e)
    have hended : cancellations run 0 (e.ended :: rest) = cancellations run 0 rest :=
      cancellations_append_of_silent hsilent 0 rest
    rw [hended, cancellations, RuleExecution.unreached_zero, accepted, Nat.zero_sub]
    rfl

/-! ## cut runs -/

/-- what is left of a run that is cut `k` results from now -/
def cutResults (run : Run) (k : Nat) (rules : List RuleExecution) : List Result :=
  (rules.flatMap (·.remainder run)).take k ++ cancellations run k rules

/-- **One call of a cut run**: the look number `k` is the first that shows a cancellation. -/
theorem nextOf_of_cut {run : Run} {k : Nat} {w : Watch}
    (hw : w.shows = fun i => decide (k ≤ i)) (rules : List RuleExecution) :
    (nextOf run w rules).1 = (cutResults run (k - w.looks) rules).head? ∧
      cutResults run (k - (nextOf run w rules).2.2.looks) (nextOf run w rules).2.1 =
        (cutResults run (k - w.looks) rules).tail := by
  unfold cutResults
  rcases nextOf_cases run w rules with
    ⟨hall, hn⟩ | ⟨silent, e, rest, result, e', rfl, hsilent, hstep, hn⟩
  · rw [hn, flatMap_remainder_of_silent hall, cancellations_of_silent hall, List.take_nil]
    exact ⟨rfl, by simp [cancellations]⟩
  · have hlook : w.look.1 = decide (k ≤ w.looks) := by
      show w.shows w.looks = _
      rw [hw]
    rw [hn, List.flatMap_append, flatMap_remainder_of_silent hsilent, List.nil_append,
      cancellations_append_of_silent hsilent]
    show some result = _ ∧
      ((e' :: rest).flatMap (·.remainder run)).take (k - (w.looks + 1)) ++
        cancellations run (k - (w.looks + 1)) (e' :: rest) = _
    by_cases hk : k ≤ w.looks
    · rw [hlook, decide_eq_true hk] at hstep
      rw [Nat.sub_eq_zero_of_le hk, Nat.sub_eq_zero_of_le (Nat.le_succ_of_le hk),
        cancellations_zero hstep]
      exact ⟨rfl, rfl⟩
    · rw [hlook, decide_eq_false hk] at hstep
      have hsucc : k - w.looks = k - (w.looks + 1) + 1 := by omega
      rw [hsucc, cancellations_succ hstep, List.flatMap_cons, List.flatMap_cons,
        hstep.remainder_eq]
      exact ⟨rfl, rfl⟩

theorem answerFrom_of_cut {run : Run} (hstop : run.stopOnFirstFailure = false) (k : Nat)
    (rules : List RuleExecution) (i : Nat) :
    answerFrom (.start fun i => decide (k ≤ i)) ⟨run, rules⟩ i =
      (cutResults run k rules)[i]? := by
  refine answerFrom_eq_getElem?
    (fun w e => e.run = run ∧ w.shows = fun i => decide (k ≤ i))
    (fun w e => cutResults run (k - w.looks) e.rules) ?_ ?_ i _ ⟨run, rules⟩ ⟨rfl, rfl⟩
  · rintro w ⟨_, rules⟩ ⟨rfl, hw⟩
    rw [next_of_lenient hstop]
    exact (nextOf_of_cut hw rules).1
  · rintro w ⟨_, rules⟩ ⟨rfl, hw⟩
    rw [next_of_lenient hstop]
    refine ⟨⟨rfl, ?_⟩, (nextOf_of_cut hw rules).2⟩
    show (nextOf _ w rules).2.2.shows = _
    rw [shows_nextOf, hw]

theorem results_of_cut {run : Run} (hstop : run.stopOnFirstFailure = false) (k : Nat)
    (rules : List RuleExecution) :
    results ⟨run, rules⟩ (fun i => decide (k ≤ i)) = cutResults run k rules := by
  apply List.ext_getElem?
  intro i
  show (resultsFrom _ _)[i]? = _
  rw [← answerFrom_eq_resultsFrom, answerFrom_of_cut hstop]

end Execution

/-! ## from the start -/

theorem Run.cancellations_start (run : Run) (k : Nat) (ps : List Pattern) :
    Execution.cancellations run k (run.start ps).rules =
      run.cancellations k (Schema.rulesOf ps) := by
  rw [run.rules_start]
  induction Schema.rulesOf ps generalizing k with
  | nil => rfl
  | cons x rest ih =>
    rw [List.map_cons, Execution.cancellations, ih]
    rfl

section
variable {s : Schema} {o : ExecutionOptions}

/-- **A run that is cut gives the first results of the run that nobody cancels, then one
cancellation for each rule with an assertion left**, and nothing after that. -/
theorem results_executeWith_cut (h : o.Fits s) (hstop : o.stopOnFirstFailure = false)
    (d : Document) (root : Node) (filter : AssertionFilter) (now : Time.Instant) (k : Nat) :
    ∃ e, s.executeWith d root filter o now = .ok e ∧
      e.results (fun i => decide (k ≤ i)) =
        (e.results fun _ => false).take k ++
          (s.runOf d root filter o now).cancellations k (Schema.rulesOf (s.selected o)) ∧
      ∀ p r a, Result.cancelled p r a =
        { id := a.id, severity := .fatal, kind := a.kind, message := "cancel", total := 0,
          pass := 0, error := some .cancelled, pattern := p.id, context := r.context,
          flag := a.flag, role := a.role } := by
  refine ⟨_, Schema.executeWith_of_fits h d root filter now, ?_, fun _ _ _ => rfl⟩
  have hrun : (s.runOf d root filter o now).stopOnFirstFailure = false := hstop
  have hcut := Execution.results_of_cut hrun k
    ((s.runOf d root filter o now).start (s.selected o)).rules
  have hquiet := Execution.results_of_quiet hrun
    ((s.runOf d root filter o now).start (s.selected o)).rules
  rw [← Run.cancellations_start]
  exact hcut.trans (congrArg (List.take k · ++ _) hquiet.symm)

end

/-- the second look shows that the run is cancelled: a rule in the middle and one not begun -/
theorem results_executeWith_cut_invoice : ∃ e,
    invoiceSchema.executeWith invoice .root .all ⟨some "quick", 1, false⟩ ⟨0, 0, 0⟩ = .ok e ∧
      (e.results fun i => decide (1 ≤ i)).map (fun r => (r.id, r.message)) =
        [("quantity", "B2 has no quantity"), ("sku", "cancel"), ("text", "cancel")] := by
  have hfits : ExecutionOptions.Fits ⟨some "quick", 1, false⟩ invoiceSchema :=
    ⟨by decide, fun id hid => .inr ⟨_, List.mem_singleton_self _, by cases hid; rfl⟩⟩
  obtain ⟨e, he, hresults, -⟩ :=
    results_executeWith_cut hfits rfl invoice .root .all ⟨0, 0, 0⟩ 1
  have hvalue : e = (invoiceSchema.runOf invoice .root .all ⟨some "quick", 1, false⟩
      ⟨0, 0, 0⟩).start (invoiceSchema.selected ⟨some "quick", 1, false⟩) :=
    Except.ok.inj (he.symm.trans (Schema.executeWith_of_fits hfits _ _ _ _))
  refine ⟨e, he, ?_⟩
  rw [hresults, hvalue, Run.results_start rfl]
  decide +kernel

end Rulebook
