import Rulebook.Proofs.Execution.Blocks

/-!
# Runs that stop at the first fatal failure

A run that stops looks at its token and evaluates its rules just as the run that goes on does, up
to the result that it stops after.

* `Run.failFast`      the same run, stopping;
* `Result.upToFatal`  some results up to the first fatal failure, which is the last to stay.

`results_executeWith_failFast`: **a run that stops gives the results of the run that goes on up to
the first fatal failure**, whatever its token shows, and a summary is valid for both or for none.
-/

set_option autoImplicit false

namespace Rulebook

/-! ## the first fatal failure -/

/-- results up to the first fatal failure; all of them if there is none -/
def Result.upToFatal (rs : List Result) : List Result :=
  rs.take (rs.findIdx Result.isFatalFailure + 1)

namespace Result

theorem upToFatal_nil : upToFatal [] = [] := rfl

theorem upToFatal_cons_of_fatal {r : Result} (h : r.isFatalFailure = true) (rs : List Result) :
    upToFatal (r :: rs) = [r] := by
  unfold upToFatal
  rw [List.findIdx_cons, h, cond_true, List.take_succ_cons, List.take_zero]

theorem upToFatal_cons_of_not_fatal {r : Result} (h : r.isFatalFailure = false)
    (rs : List Result) : upToFatal (r :: rs) = r :: upToFatal rs := by
  unfold upToFatal
  rw [List.findIdx_cons, h, cond_false, List.take_succ_cons]

/-- the cut keeps a fatal failure if there is one -/
theorem all_upToFatal (rs : List Result) :
    (upToFatal rs).all (fun r => !r.isFatalFailure) = rs.all fun r => !r.isFatalFailure := by
  induction rs with
  | nil => rfl
  | cons r rs ih =>
    cases h : r.isFatalFailure with
    | true => simp [upToFatal_cons_of_fatal h, h]
    | false => rw [upToFatal_cons_of_not_fatal h, List.all_cons, List.all_cons, ih]

end Result

namespace Summary

theorem fatal_add (s : Summary) (r : Result) :
    (s.add r).fatal = s.fatal + if r.isFatalFailure then 1 else 0 := by
  unfold add Result.isFatalFailure
  cases r.isFailed with
  | false => rfl
  | true => cases r.severity <;> rfl

/-- the summary counts the fatal failures -/
theorem fatal_foldl_add (rs : List Result) (s : Summary) :
    (rs.foldl add s).fatal = s.fatal + rs.countP Result.isFatalFailure := by
  induction rs generalizing s with
  | nil => rfl
  | cons r rs ih =>
    rw [List.foldl_cons, ih, fatal_add, List.countP_cons]
    omega

theorem isValid_ofResults (rs : List Result) :
    (ofResults rs).isValid = rs.all fun r => !r.isFatalFailure := by
  have hcount : (ofResults rs).fatal = rs.countP Result.isFatalFailure := by
    show (rs.foldl add empty).fatal = _
    rw [fatal_foldl_add]
    exact Nat.zero_add _
  rw [Bool.eq_iff_iff]
  unfold isValid
  rw [hcount, beq_iff_eq, List.countP_eq_zero, List.all_eq_true]
  simp

theorem isValid_upToFatal (rs : List Result) :
    (ofResults (Result.upToFatal rs)).isValid = (ofResults rs).isValid := by
  rw [isValid_ofResults, isValid_ofResults, Result.all_upToFatal]

end Summary

/-! ## one call -/

def Run.failFast (run : Run) : Run := { run with stopOnFirstFailure := true }

theorem RuleExecution.next_failFast (run : Run) (w : Watch) (e : RuleExecution) :
    e.next run.failFast w = e.next run w := by
  have hresult (p : Pattern) (r : Rule) (a : Assertion) (ns : List Node) :
      run.failFast.resultOf p r a ns = run.resultOf p r a ns :=
    Run.resultOf_congr (by rfl) (by rfl) p r a ns
  unfold next
  simp only [hresult]
  rfl

namespace Execution

/-- the cursors move the same way -/
theorem nextOf_failFast (run : Run) (w : Watch) (rules : List RuleExecution) :
    nextOf run.failFast w rules = nextOf run w rules := by
  induction rules generalizing w with
  | nil => rfl
  | cons e rest ih =>
    unfold nextOf
    rw [e.next_failFast run w]
    split
    · rfl
    · exact ih _

/-- after a fatal failure nothing remains of a run that stops -/
theorem next_failFast_of_some {run : Run} {w w' : Watch} {rules rules' : List RuleExecution}
    {result : Result} (h : nextOf run w rules = (some result, rules', w')) :
    next ⟨run.failFast, rules⟩ w =
      (some result, ⟨run.failFast, if result.isFatalFailure then [] else rules'⟩, w') := by
  unfold next
  rw [nextOf_failFast, h]
  cases hfatal : result.isFatalFailure with
  | true => simp [Run.failFast, hfatal]
  | false => simp [Run.failFast, hfatal]

theorem next_failFast_of_none {run : Run} {w w' : Watch} {rules rules' : List RuleExecution}
    (h : nextOf run w rules = (none, rules', w')) :
    next ⟨run.failFast, rules⟩ w = (none, ⟨run.failFast, rules'⟩, w') := by
  unfold next
  rw [nextOf_failFast, h]

/-! ## all calls -/

/-- **A run that stops gives the results of the run that goes on up to the first fatal failure.** -/
theorem resultsFrom_failFast (w : Watch) (e : Execution)
    (hstop : e.run.stopOnFirstFailure = false) :
    resultsFrom w ⟨e.run.failFast, e.rules⟩ = Result.upToFatal (resultsFrom w e) := by
  -- both runs call by call, up to the end of the one that goes on
  induction w, e using resultsFrom.induct with
  | case1 w e result e' w' h ih =>
    obtain ⟨run, rules⟩ := e
    rw [resultsFrom_of_some h]
    rw [next_of_lenient hstop] at h
    obtain ⟨hresult, hrest⟩ := Prod.mk.inj h
    obtain ⟨rfl, rfl⟩ := Prod.mk.inj hrest
    have hnext : next ⟨run.failFast, rules⟩ w = _ := next_failFast_of_some (Prod.ext hresult rfl)
    rw [resultsFrom_of_some hnext]
    cases hfatal : result.isFatalFailure with
    | true =>
      rw [Result.upToFatal_cons_of_fatal hfatal, if_pos rfl, resultsFrom_of_rules_nil rfl]
    | false =>
      rw [Result.upToFatal_cons_of_not_fatal hfatal, if_neg Bool.false_ne_true]
      exact congrArg _ (ih hstop)
  | case2 w e e' w' h =>
    obtain ⟨run, rules⟩ := e
    rw [resultsFrom_of_none h, Result.upToFatal_nil]
    rw [next_of_lenient hstop] at h
    exact resultsFrom_of_none (next_failFast_of_none (Prod.ext (Prod.mk.inj h).1 rfl))

end Execution

/-- **Stopping at the first fatal failure gives a prefix with the same verdict**: whatever the
token shows at each look, the results of the run that goes on are cut right after their first
fatal failure, and their summary is valid or not as before.  Options that do not fit the schema
are refused before either run begins. -/
theorem results_executeWith_failFast (s : Schema) (o : ExecutionOptions) (d : Document)
    (root : Node) (filter : AssertionFilter) (now : Time.Instant) (shows : Nat → Bool) :
    (∃ strict lenient,
      s.executeWith d root filter { o with stopOnFirstFailure := true } now = .ok strict ∧
      s.executeWith d root filter { o with stopOnFirstFailure := false } now = .ok lenient ∧
      strict.results shows = Result.upToFatal (lenient.results shows) ∧
      (Summary.ofResults (strict.results shows)).isValid =
        (Summary.ofResults (lenient.results shows)).isValid) ∨
    ¬ o.Fits s ∧ ∃ error, ∀ stop,
      s.executeWith d root filter { o with stopOnFirstFailure := stop } now = .error error := by
  by_cases hfits : o.Fits s
  · have hany (stop : Bool) : ExecutionOptions.Fits { o with stopOnFirstFailure := stop } s :=
      ⟨hfits.depth, hfits.phase⟩
    have hresults := Execution.resultsFrom_failFast (.start shows)
      ((s.runOf d root filter { o with stopOnFirstFailure := false } now).start (s.selected o)) rfl
    refine .inl ⟨_, _, Schema.executeWith_of_fits (hany true) d root filter now,
      Schema.executeWith_of_fits (hany false) d root filter now, hresults, ?_⟩
    exact (congrArg (fun rs => (Summary.ofResults rs).isValid) hresults).trans
      (Summary.isValid_upToFatal _)
  · obtain ⟨error, herror⟩ := Schema.executeWith_of_not_fits hfits
    exact .inr ⟨hfits, error, fun stop => herror stop d root filter now⟩

end Rulebook
