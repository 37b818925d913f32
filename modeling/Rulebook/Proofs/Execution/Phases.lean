import Rulebook.Proofs.Execution.Blocks
import Rulebook.Proofs.Schema.Editing

/-!
# Runs of a phase

A result names its pattern by an id, and a schema that is built by edits has one pattern for each
id and one phase for each id.  What a pattern reports does not depend on the others that are run.

`results_executeWith_phase`: **a run of a phase gives the results of the whole run that name one of
its patterns**, in the same order.
-/

set_option autoImplicit false

namespace Rulebook

/-! ## the pattern of a result -/

namespace Run
variable (run : Run) (p : Pattern) (r : Rule)

theorem pattern_resultOf (a : Assertion) (ns : List Node) :
    (run.resultOf p r a ns).pattern = p.id := by
  obtain ⟨total, pass, message, error, h⟩ := run.resultOf_shape p r a ns
  rw [h]
  rfl

/-- a rule reports under the id of its pattern -/
theorem pattern_of_mem_block {result : Result} (h : result ∈ run.block p r) :
    result.pattern = p.id := by
  unfold block blockOf at h
  split at h
  · obtain ⟨a, -, rfl⟩ := List.mem_map.mp h
    exact run.pattern_resultOf p r a _
  · split at h
    · cases h
    · rw [List.mem_singleton.mp h]
      rfl

end Run

/-! ## some patterns of many -/

/-- what comes from the elements that stay, if it tells where it comes from -/
theorem flatMap_filter {α β : Type} {f : α → List β} {stays : α → Bool} {tells : β → Bool}
    {l : List α} (h : ∀ a ∈ l, ∀ b ∈ f a, tells b = stays a) :
    (l.filter stays).flatMap f = (l.flatMap f).filter tells := by
  induction l with
  | nil => rfl
  | cons a l ih =>
    obtain ⟨ha, hl⟩ := List.forall_mem_cons.mp h
    rw [List.flatMap_cons, List.filter_append, ← ih hl]
    cases hstays : stays a with
    | true =>
      have hall : (f a).filter tells = f a :=
        List.filter_eq_self.mpr fun b hb => (ha b hb).trans hstays
      rw [List.filter_cons_of_pos hstays, List.flatMap_cons, hall]
    | false =>
      have hnone : (f a).filter tells = [] :=
        List.filter_eq_nil_iff.mpr fun b hb => by simp [ha b hb, hstays]
      rw [List.filter_cons_of_neg (by simp [hstays]), hnone]
      rfl

theorem rulesOf_filter (ps : List Pattern) (stays : Pattern → Bool) :
    Schema.rulesOf (ps.filter stays) = (Schema.rulesOf ps).filter fun x => stays x.1 := by
  refine flatMap_filter fun p _ x hx => ?_
  obtain ⟨r, -, rfl⟩ := List.mem_map.mp hx
  rfl

/-- **A run of the patterns with certain ids gives the results that name them.** -/
theorem Run.results_start_filter {run : Run} (hstop : run.stopOnFirstFailure = false)
    (ps : List Pattern) (ids : List String) :
    (run.start (ps.filter fun p => ids.contains p.id)).results (fun _ => false) =
      ((run.start ps).results fun _ => false).filter fun r => ids.contains r.pattern := by
  rw [run.results_start hstop, run.results_start hstop, rulesOf_filter]
  refine flatMap_filter fun x _ result hresult => ?_
  rw [run.pattern_of_mem_block x.1 x.2 hresult]

/-! ## a phase -/

theorem Schema.Consistent.selected_eq {s : Schema} (h : s.Consistent) {ph : Phase}
    (hph : ph ∈ s.phases) (hid : ph.id ≠ allPhases) {o : ExecutionOptions}
    (ho : o.phase = some ph.id) :
    s.selected o = s.patterns.filter fun p => ph.active.contains p.id := by
  unfold selected
  simp only [ho, if_neg hid, h.phase?_eq hph, Option.any_some]

/-- **A phase restricts the whole run**: whatever a schema is built by, a run of one of its phases
gives the results of the run without a phase that name a pattern of the phase.  Without any depth
both are refused. -/
theorem results_executeWith_phase {s : Schema} (h : s.Built) {ph : Phase} (hph : ph ∈ s.phases)
    (hid : ph.id ≠ allPhases) (d : Document) (root : Node) (filter : AssertionFilter)
    (now : Time.Instant) (depth : Nat) :
    (∃ part whole, s.executeWith d root filter ⟨some ph.id, depth, false⟩ now = .ok part ∧
      s.executeWith d root filter ⟨none, depth, false⟩ now = .ok whole ∧
      part.results (fun _ => false) =
        (whole.results fun _ => false).filter fun r => ph.active.contains r.pattern) ∨
    depth = 0 ∧ ∀ phase, s.executeWith d root filter ⟨phase, depth, false⟩ now =
      .error (.options .zeroDepth) := by
  rcases Nat.eq_zero_or_pos depth with rfl | hdepth
  · exact .inr ⟨rfl, fun _ => Schema.executeWith_of_zeroDepth rfl s d root filter now⟩
  · have hpart : ExecutionOptions.Fits ⟨some ph.id, depth, false⟩ s :=
      ⟨hdepth, fun id hsome => .inr ⟨ph, hph, Option.some.inj hsome⟩⟩
    have hwhole : ExecutionOptions.Fits ⟨none, depth, false⟩ s := ⟨hdepth, nofun⟩
    refine .inl ⟨_, _, Schema.executeWith_of_fits hpart d root filter now,
      Schema.executeWith_of_fits hwhole d root filter now, ?_⟩
    rw [h.consistent.selected_eq hph hid rfl]
    exact Run.results_start_filter rfl s.patterns ph.active

/-- edits that make the schema of invoices -/
def invoiceEdits : List Edit :=
  [.addPattern "items", .addRule 0 "item",
    .addAssertion 0 0 "quantity" .assert .fatal "@qty > 0" (.parse "{@sku} has no quantity"),
    .addAssertion 0 0 "sku" .assert .warning "@sku" (.parse "no sku"),
    .addPattern "notes", .addRule 1 "'note'",
    .addAssertion 1 0 "text" .assert .info "." (.parse "empty note"),
    .addAssertion 1 0 "language" .assert .info "@xml:lang" (.parse "no language"),
    .addPattern "orders", .addRule 2 "order",
    .addAssertion 2 0 "order" .report .info "true()" (.parse "an order"),
    .addPhase "quick" ["items", "notes"]]

theorem built_invoiceSchema : invoiceSchema.Built := by
  have htag : Binding.ofTag? "xslt" = some .xpath1 := by decide +kernel
  have hnew : Schema.new "Invoices" "xslt" = .ok ⟨"Invoices", .xpath1, ∅, [], [], ∅⟩ := by
    unfold Schema.new
    rw [htag]
  exact ⟨_, _, _, invoiceEdits, hnew, rfl⟩

/-- the order is reported by the whole run alone -/
theorem results_executeWith_phase_invoice : ∃ part whole,
    invoiceSchema.executeWith invoice .root .all ⟨some "quick", 1, false⟩ ⟨0, 0, 0⟩ = .ok part ∧
      invoiceSchema.executeWith invoice .root .all ⟨none, 1, false⟩ ⟨0, 0, 0⟩ = .ok whole ∧
      ((whole.results fun _ => false).map fun r => (r.pattern, r.id)) =
        [("items", "quantity"), ("items", "sku"), ("notes", "RULE"), ("orders", "order")] ∧
      ((part.results fun _ => false).map fun r => (r.pattern, r.id)) =
        [("items", "quantity"), ("items", "sku"), ("notes", "RULE")] := by
  have hwhole : (((invoiceSchema.runOf invoice .root .all ⟨none, 1, false⟩ ⟨0, 0, 0⟩).start
      invoiceSchema.patterns).results fun _ => false).map (fun r => (r.pattern, r.id)) =
      [("items", "quantity"), ("items", "sku"), ("notes", "RULE"), ("orders", "order")] := by
    rw [Run.results_start rfl]
    decide +kernel
  have hfits : ExecutionOptions.Fits ⟨none, 1, false⟩ invoiceSchema := ⟨by decide, nofun⟩
  rcases results_executeWith_phase built_invoiceSchema (List.mem_singleton_self _) (by decide)
    invoice .root .all ⟨0, 0, 0⟩ 1 with ⟨part, whole, hpart, hok, hresults⟩ | ⟨hzero, -⟩
  · rw [Schema.executeWith_of_fits hfits] at hok
    obtain rfl := Except.ok.inj hok
    refine ⟨part, _, hpart, Schema.executeWith_of_fits hfits .., hwhole, ?_⟩
    have hfilter (rs : List Result) :
        (rs.filter fun r => ["items", "notes"].contains r.pattern).map
          (fun r => (r.pattern, r.id)) =
        (rs.map fun r => (r.pattern, r.id)).filter fun x => ["items", "notes"].contains x.1 :=
      (List.filter_map (p := fun x : String × String => ["items", "notes"].contains x.1)).symm
    rw [hresults]
    exact ((hfilter _).trans (congrArg _ hwhole)).trans (by decide)
  · cases hzero

end Rulebook
