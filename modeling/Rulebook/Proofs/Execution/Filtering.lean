import Rulebook.Proofs.Evaluation.Steps
import Rulebook.Proofs.Execution.Listing

/-!
# Runs with a filter

A filter decides which assertions a run is about, and a rule is prepared for no others.

* `Run.reports`      the results of a rule, each with what it is about: an assertion, or the rule;
* `Schema.reports`   those of a run that is about all assertions.

`results_executeWith_filter`: **a run with a filter gives the results of the run without one that
are about accepted assertions and about rules that have one**, if all tests compile.
-/

set_option autoImplicit false

namespace Rulebook

/-- what a result is about -/
inductive Subject where
  | assertion (a : Assertion)
  /-- a rule that cannot be run -/
  | rule (r : Rule)

/-- a rule is accepted for any of its assertions -/
def Subject.isAccepted (filter : AssertionFilter) : Subject → Bool
  | assertion a => filter a
  | rule r => r.assertions.any filter

/-! ## the results of a rule -/

namespace Run

/-- some assertions of a rule with their results, by whether the rule can be run -/
def reportsOf (run : Run) (p : Pattern) (r : Rule) (as : List Assertion) :
    Except ValidationError (List Node) → List (Subject × Result)
  | .ok ns => as.map fun a => (.assertion a, run.resultOf p r a ns)
  | .error error => if as.isEmpty then [] else [(.rule r, .ruleFailure p r error)]

/-- the results of a rule of a run that nobody cancels, with what they are about -/
def reports (run : Run) (p : Pattern) (r : Rule) : List (Subject × Result) :=
  run.reportsOf p r (r.assertions.filter run.filter) (run.prepare p r)

theorem map_reports (run : Run) (p : Pattern) (r : Rule) :
    (run.reports p r).map (·.2) = run.block p r := by
  unfold reports block
  cases run.prepare p r with
  | ok ns => exact List.map_map
  | error error =>
    unfold reportsOf blockOf
    cases (r.assertions.filter run.filter).isEmpty <;> rfl

/-- the refusal of a rule stays as long as any of its assertions does -/
theorem reportsOf_error_filter (run : Run) (p : Pattern) (r : Rule) (filter : AssertionFilter)
    (error : ValidationError) :
    run.reportsOf p r (r.assertions.filter filter) (.error error) =
      (run.reportsOf p r r.assertions (.error error)).filter fun x => x.1.isAccepted filter := by
  unfold reportsOf
  cases hany : r.assertions.any filter with
  | true =>
    obtain ⟨a, ha, hfilter⟩ := List.any_eq_true.mp hany
    have hall : r.assertions.isEmpty = false :=
      List.isEmpty_eq_false_iff.mpr (List.ne_nil_of_mem ha)
    have hsome : (r.assertions.filter filter).isEmpty = false :=
      List.isEmpty_eq_false_iff.mpr (List.ne_nil_of_mem (List.mem_filter.mpr ⟨ha, hfilter⟩))
    rw [hall, hsome]
    simp [Subject.isAccepted, hany]
  | false =>
    have hnone : r.assertions.filter filter = [] :=
      List.filter_eq_nil_iff.mpr (List.any_eq_false.mp hany)
    rw [hnone]
    cases r.assertions.isEmpty with
    | true => rfl
    | false => simp [Subject.isAccepted, hany]

/-! ### another filter -/

variable (run : Run) (p : Pattern) (r : Rule) (filter : AssertionFilter)

def withFilter : Run := { run with filter }

/-- the result of an assertion is that of a run about other assertions -/
theorem resultOf_withFilter (a : Assertion) (ns : List Node) :
    (run.withFilter filter).resultOf p r a ns = run.resultOf p r a ns :=
  resultOf_congr (by rfl) (by rfl) p r a ns

variable {r}
  (htests : ∀ a ∈ r.assertions, ∃ e, compile a.test run.schema.binding .full = .ok e)
include htests

theorem checkTests_filter :
    checkTests run.schema.binding (r.assertions.filter filter) = .ok () := by
  rcases checkTests_cases run.schema.binding (r.assertions.filter filter) with
    ⟨-, hok⟩ | ⟨a, ha, e, he, -⟩
  · exact hok
  · obtain ⟨c, hc⟩ := htests a (List.mem_of_mem_filter ha)
    rw [hc] at he
    cases he

/-- where all tests compile it does not matter which of them are compiled -/
theorem prepare_withFilter : (run.withFilter filter).prepare p r = run.prepare p r := by
  have hall := run.checkTests_filter run.filter htests
  have hsome := run.checkTests_filter filter htests
  unfold prepare
  rw [hall]
  show ((compileSelector r.context run.schema.binding).mapError _ >>= fun _ =>
    checkTests run.schema.binding (r.assertions.filter filter) >>= _) = _
  rw [hsome]
  rfl

/-- **A filter only removes results of a rule.** -/
theorem reports_withFilter :
    (run.withFilter filter).reports p r =
      ((run.withFilter .all).reports p r).filter fun x => x.1.isAccepted filter := by
  have hall : r.assertions.filter AssertionFilter.all = r.assertions :=
    List.filter_eq_self.mpr fun _ _ => rfl
  unfold reports
  rw [run.prepare_withFilter p filter htests, run.prepare_withFilter p .all htests]
  show reportsOf _ p r (r.assertions.filter filter) _ =
    (reportsOf _ p r (r.assertions.filter AssertionFilter.all) _).filter _
  rw [hall]
  cases run.prepare p r with
  | ok ns =>
    unfold reportsOf
    simp only [resultOf_withFilter]
    rw [List.filter_map]
    rfl
  | error error => exact reportsOf_error_filter run p r filter error

end Run

/-! ## the results of a schema -/

/-- the results of a run about all assertions, with what they are about -/
def Schema.reports (s : Schema) (d : Document) (root : Node) (o : ExecutionOptions)
    (now : Time.Instant) : List (Subject × Result) :=
  (rulesOf (s.selected o)).flatMap fun x => (s.runOf d root .all o now).reports x.1 x.2

theorem Schema.selected_subset (s : Schema) (o : ExecutionOptions) : s.selected o ⊆ s.patterns := by
  unfold selected
  split
  · exact List.Subset.refl _
  · split
    · exact List.Subset.refl _
    · exact List.filter_sublist.subset

section
variable {s : Schema} {o : ExecutionOptions}

theorem mem_assertions_of_mem_rulesOf {x : Pattern × Rule} (hx : x ∈ Schema.rulesOf (s.selected o))
    {a : Assertion} (ha : a ∈ x.2.assertions) : a ∈ s.assertions := by
  rw [s.assertions_eq_flatMap]
  refine List.mem_flatMap.mpr ⟨x, ?_, ha⟩
  obtain ⟨p, hp, hx⟩ := List.mem_flatMap.mp hx
  exact List.mem_flatMap.mpr ⟨p, s.selected_subset o hp, hx⟩

/-- **Filtering only removes results.** -/
theorem results_executeWith_filter (h : o.Fits s) (hstop : o.stopOnFirstFailure = false)
    (htests : ∀ a ∈ s.assertions, ∃ e, compile a.test s.binding .full = .ok e) (d : Document)
    (root : Node) (filter : AssertionFilter) (now : Time.Instant) :
    ∃ whole part, s.executeWith d root .all o now = .ok whole ∧
      s.executeWith d root filter o now = .ok part ∧
      whole.results (fun _ => false) = (s.reports d root o now).map (·.2) ∧
      part.results (fun _ => false) =
        ((s.reports d root o now).filter fun x => x.1.isAccepted filter).map (·.2) := by
  refine ⟨_, _, Schema.executeWith_of_fits h d root .all now,
    Schema.executeWith_of_fits h d root filter now, ?_, ?_⟩
  · rw [Run.results_start hstop, Schema.reports, List.map_flatMap]
    simp only [Run.map_reports]
  · have hrule : ∀ x ∈ Schema.rulesOf (s.selected o),
        (s.runOf d root filter o now).reports x.1 x.2 =
          ((s.runOf d root .all o now).reports x.1 x.2).filter fun y => y.1.isAccepted filter :=
      fun x hx => (s.runOf d root .all o now).reports_withFilter x.1 filter fun a ha =>
        htests a (mem_assertions_of_mem_rulesOf hx ha)
    rw [Run.results_start hstop, Schema.reports, List.filter_flatMap, List.map_flatMap]
    refine List.flatMap_congr fun x hx => ?_
    rw [← hrule x hx, Run.map_reports]

end

/-- the quantities and the orders go; the rule about notes stays for one of its assertions -/
theorem results_executeWith_filter_invoice : ∃ whole part,
    invoiceSchema.executeWith invoice .root .all .standard ⟨0, 0, 0⟩ = .ok whole ∧
      invoiceSchema.executeWith invoice .root (fun a => ["sku", "language"].contains a.id)
        .standard ⟨0, 0, 0⟩ = .ok part ∧
      (whole.results fun _ => false).map (·.id) = ["quantity", "sku", "RULE", "order"] ∧
      (part.results fun _ => false).map (·.id) = ["sku", "RULE"] := by
  have hfits : ExecutionOptions.standard.Fits invoiceSchema := ⟨by decide, nofun⟩
  have htests : ∀ a ∈ invoiceSchema.assertions,
      ∃ e, compile a.test invoiceSchema.binding .full = .ok e := by
    have hall : invoiceSchema.assertions.all (fun a =>
        (compile a.test invoiceSchema.binding .full).toOption.any fun _ => true) = true := by
      decide +kernel
    intro a ha
    obtain ⟨e, he, -⟩ := exists_ok_of_any (List.all_eq_true.mp hall a ha)
    exact ⟨e, he⟩
  obtain ⟨whole, part, hwhole, hpart, hall, hsome⟩ := results_executeWith_filter hfits rfl htests
    invoice .root (fun a => ["sku", "language"].contains a.id) ⟨0, 0, 0⟩
  refine ⟨whole, part, hwhole, hpart, ?_, ?_⟩
  · rw [hall]
    decide +kernel
  · rw [hsome]
    decide +kernel

end Rulebook
