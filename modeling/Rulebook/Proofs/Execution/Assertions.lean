import Rulebook.Proofs.Execution.Blocks
import Rulebook.Proofs.Document.Order
import Rulebook.Proofs.Evaluation.Steps

/-!
# What an assertion comes to

The nodes of a rule are asked in turn, up to the first that does not satisfy the assertion.

* `AssertionKind.SatisfiedIn`   the test has a value in a context, and the right one;
* `Run.Satisfied`               this at a node, with its place among all nodes of the rule.

`resultOf_of_prepare`: **the result of an assertion is that of the first node that does not satisfy
it**: a failure with the message for that node, or the error of its test.  What comes after that node
does not matter.
-/

set_option autoImplicit false

namespace Rulebook

/-- the test has a value in the context, and the value that the kind of assertion asks for -/
def AssertionKind.SatisfiedIn (kind : AssertionKind) (test : Compiled) (c : Context) : Prop :=
  ∃ v, test.evaluate c = .ok v ∧ kind.satisfied v.truth = true

namespace Run

variable {run : Run} {p : Pattern} {r : Rule} {a : Assertion} {kind : AssertionKind}
  {test : Compiled} {ns : List Node}

/-- the node at an index satisfies the assertion, with its position among all nodes -/
def Satisfied (run : Run) (p : Pattern) (r : Rule) (kind : AssertionKind) (test : Compiled)
    (ns : List Node) (i : Nat) : Prop :=
  ∃ n, ns[i]? = some n ∧ kind.SatisfiedIn test (run.context p r n (i + 1) ns.length)

/-! ## one node after the other -/

/-- what a node says that does not satisfy the assertion is the outcome -/
theorem firstFailure_of_not_satisfied {size i : Nat} {n : Node}
    (h : ¬ kind.SatisfiedIn test (run.context p r n (i + 1) size)) (rest : List Node) :
    run.firstFailure p r kind test size i (n :: rest) =
      (test.evaluate (run.context p r n (i + 1) size)).map fun _ =>
        some (i, run.context p r n (i + 1) size) := by
  rw [firstFailure]
  cases hv : test.evaluate (run.context p r n (i + 1) size) with
  | error e => rfl
  | ok v =>
    have hsatisfied : kind.satisfied v.truth = false :=
      Bool.eq_false_iff.mpr fun htrue => h ⟨v, hv, htrue⟩
    show (if kind.satisfied v.truth = true then _ else _) = _
    rw [hsatisfied]
    rfl

/-- the nodes that satisfy the assertion are passed over -/
theorem firstFailure_append {size : Nat} {before : List Node} {i : Nat}
    (h : ∀ j n, before[j]? = some n → kind.SatisfiedIn test (run.context p r n (i + j + 1) size))
    (rest : List Node) :
    run.firstFailure p r kind test size i (before ++ rest) =
      run.firstFailure p r kind test size (i + before.length) rest := by
  induction before generalizing i with
  | nil => rfl
  | cons n before ih =>
    obtain ⟨v, hv, hsatisfied⟩ := h 0 n rfl
    have hrest := ih (i := i + 1) fun j m hm => by
      have := h (j + 1) m hm
      rwa [show i + (j + 1) + 1 = i + 1 + j + 1 by omega] at this
    rw [List.cons_append, firstFailure, hv]
    show (if kind.satisfied v.truth = true then _ else _) = _
    rw [if_pos hsatisfied, hrest, List.length_cons, Nat.add_right_comm]
    rfl

/-- all nodes satisfy the assertion -/
theorem firstFailure_eq_none (h : ∀ i < ns.length, run.Satisfied p r kind test ns i) :
    run.firstFailure p r kind test ns.length 0 ns = .ok none := by
  have hbefore : ∀ j n, ns[j]? = some n →
      kind.SatisfiedIn test (run.context p r n (0 + j + 1) ns.length) := by
    intro j n hn
    obtain ⟨m, hm, hsatisfied⟩ := h j (List.getElem?_eq_some_iff.mp hn).1
    cases hn.symm.trans hm
    rwa [Nat.zero_add]
  have hall := firstFailure_append hbefore []
  rw [List.append_nil] at hall
  rw [hall]
  rfl

/-- the first node that does not satisfy the assertion decides -/
theorem firstFailure_eq {k : Nat} {n : Node} (hn : ns[k]? = some n)
    (hk : ¬ run.Satisfied p r kind test ns k) (h : ∀ i < k, run.Satisfied p r kind test ns i) :
    run.firstFailure p r kind test ns.length 0 ns =
      (test.evaluate (run.context p r n (k + 1) ns.length)).map fun _ =>
        some (k, run.context p r n (k + 1) ns.length) := by
  obtain ⟨hlt, hget⟩ := List.getElem?_eq_some_iff.mp hn
  have hlength : (ns.take k).length = k := List.length_take_of_le hlt.le
  have hsplit : ns = ns.take k ++ n :: ns.drop (k + 1) := by
    rw [← hget, List.getElem_cons_drop, List.take_append_drop]
  have hbefore : ∀ j m, (ns.take k)[j]? = some m →
      kind.SatisfiedIn test (run.context p r m (0 + j + 1) ns.length) := by
    intro j m hm
    obtain ⟨hj, -⟩ := List.getElem?_eq_some_iff.mp hm
    rw [hlength] at hj
    rw [List.getElem?_take_of_lt hj] at hm
    obtain ⟨m', hm', hsatisfied⟩ := h j hj
    cases hm.symm.trans hm'
    rwa [Nat.zero_add]
  have hnot : ¬ kind.SatisfiedIn test (run.context p r n (k + 1) ns.length) :=
    fun hsatisfied => hk ⟨n, hn, hsatisfied⟩
  calc run.firstFailure p r kind test ns.length 0 ns
      = run.firstFailure p r kind test ns.length 0 (ns.take k ++ n :: ns.drop (k + 1)) := by
        rw [← hsplit]
    _ = run.firstFailure p r kind test ns.length k (n :: ns.drop (k + 1)) := by
        rw [firstFailure_append hbefore, hlength, Nat.zero_add]
    _ = _ := firstFailure_of_not_satisfied hnot _

/-! ## the result -/

/-- the result where the first node that does not satisfy the assertion has the index `k`, by what
the test comes to there -/
def failure (run : Run) (p : Pattern) (r : Rule) (a : Assertion) (total k : Nat) (c : Context) :
    Except EvalError Value → Result
  | .ok _ =>
    let message := a.message.render c run.schema.binding
    { Result.ofAssertion p r a with total, pass := k, message, error := some (.assertion message) }
  | .error e =>
    { Result.ofAssertion p r a with
      total, pass := 0, message := a.message.display,
      error := some (.evaluation a.message.display e) }

section
variable (htest : compile a.test run.schema.binding .full = .ok test)
include htest

theorem resultOf_of_satisfied (h : ∀ i < ns.length, run.Satisfied p r a.kind test ns i) :
    run.resultOf p r a ns =
      { Result.ofAssertion p r a with
        total := ns.length, pass := ns.length, message := a.message.display, error := none } := by
  unfold resultOf
  rw [htest]
  simp only [firstFailure_eq_none h]
  rfl

theorem resultOf_of_not_satisfied {k : Nat} {n : Node} (hn : ns[k]? = some n)
    (hk : ¬ run.Satisfied p r a.kind test ns k)
    (h : ∀ i < k, run.Satisfied p r a.kind test ns i) :
    run.resultOf p r a ns = run.failure p r a ns.length k (run.context p r n (k + 1) ns.length)
      (test.evaluate (run.context p r n (k + 1) ns.length)) := by
  unfold resultOf
  rw [htest]
  simp only [firstFailure_eq hn hk h]
  cases test.evaluate (run.context p r n (k + 1) ns.length) <;> rfl

/-- the nodes behind the first that does not satisfy the assertion only count -/
theorem resultOf_congr_of_take {ns' : List Node} {k : Nat} {n : Node} (hn : ns[k]? = some n)
    (hk : ¬ run.Satisfied p r a.kind test ns k)
    (h : ∀ i < k, run.Satisfied p r a.kind test ns i) (hlength : ns'.length = ns.length)
    (hsame : ∀ i ≤ k, ns'[i]? = ns[i]?) : run.resultOf p r a ns' = run.resultOf p r a ns := by
  have hiff (i : Nat) (hi : i ≤ k) :
      run.Satisfied p r a.kind test ns' i ↔ run.Satisfied p r a.kind test ns i := by
    unfold Satisfied
    rw [hsame i hi, hlength]
  have hn' : ns'[k]? = some n := (hsame k (Nat.le_refl k)).trans hn
  rw [resultOf_of_not_satisfied htest hn hk h, ← hlength]
  exact resultOf_of_not_satisfied htest hn' (fun hs => hk ((hiff k (Nat.le_refl k)).mp hs))
    fun i hi => (hiff i hi.le).mpr (h i hi)

/-- an assertion fails at a node or in the evaluation of its test, but no longer in compiling it -/
theorem kind_of_error_resultOf {error : ValidationError}
    (h : (run.resultOf p r a ns).error = some error) :
    error.kind = .assertion ∨ error.kind = .resolution := by
  unfold resultOf at h
  rw [htest] at h
  cases hf : run.firstFailure p r a.kind test ns.length 0 ns with
  | error e =>
    simp only [hf, Option.some.injEq] at h
    exact .inr (h ▸ rfl)
  | ok failure =>
    cases failure with
    | none =>
      simp only [hf] at h
      cases h
    | some found =>
      simp only [hf, Option.some.injEq] at h
      exact .inl (h ▸ rfl)

end

/-- what preparing a rule has found out -/
theorem of_prepare (h : run.prepare p r = .ok ns) : run.Selects p r ns ∧
    ∀ a ∈ r.assertions, run.filter a = true →
      ∃ test, compile a.test run.schema.binding .full = .ok test := by
  rcases run.prepare_cases p r with ⟨-, error, herror⟩ | ⟨hnot, found, hselects, hfound⟩
  · rw [h] at herror
    cases herror
  · rw [h] at hfound
    cases hfound
    refine ⟨hselects, fun a ha hfilter => ?_⟩
    cases htest : compile a.test run.schema.binding .full with
    | error e => exact absurd (.test ha hfilter htest) hnot
    | ok test => exact ⟨test, rfl⟩

/-- **An assertion of a prepared rule comes to what the first of the nodes says that does not satisfy
it.**  The nodes are those of the value of the selector, each once in document order; a node
satisfies the assertion if its test, at this node and with its position among all of them, has the
value that the kind of assertion asks for.  If all nodes do, all have passed.  Else the first that
does not has failed, and its message is filled in for it, or its test has no value, and the result
carries that very error.  The nodes behind it make no difference. -/
theorem resultOf_of_prepare (h : run.prepare p r = .ok ns) (ha : a ∈ r.assertions)
    (hfilter : run.filter a = true) :
    (Node.Ascending ns ∧ ns.Nodup ∧ ∃ s found,
      compileSelector r.context run.schema.binding = .ok s ∧
      s.evaluate (run.context p r run.root 1 1) = .ok (.ofNodes found) ∧
      ∀ n, n ∈ ns ↔ n ∈ found) ∧
    ∃ test, compile a.test run.schema.binding .full = .ok test ∧
      ((∀ i < ns.length, run.Satisfied p r a.kind test ns i) →
        run.resultOf p r a ns =
          { Result.ofAssertion p r a with
            total := ns.length, pass := ns.length, message := a.message.display,
            error := none }) ∧
      (∀ k n, ns[k]? = some n → ¬ run.Satisfied p r a.kind test ns k →
        (∀ i < k, run.Satisfied p r a.kind test ns i) →
        (∀ v, test.evaluate (run.context p r n (k + 1) ns.length) = .ok v →
          k < ns.length ∧ ∃ message,
            message = a.message.render (run.context p r n (k + 1) ns.length)
              run.schema.binding ∧
            run.resultOf p r a ns =
              { Result.ofAssertion p r a with
                total := ns.length, pass := k, message, error := some (.assertion message) }) ∧
        (∀ e, test.evaluate (run.context p r n (k + 1) ns.length) = .error e →
          run.resultOf p r a ns =
            { Result.ofAssertion p r a with
              total := ns.length, pass := 0, message := a.message.display,
              error := some (.evaluation a.message.display e) }) ∧
        ∀ ns' : List Node, ns'.length = ns.length → (∀ i ≤ k, ns'[i]? = ns[i]?) →
          run.resultOf p r a ns' = run.resultOf p r a ns) ∧
      ∀ error, (run.resultOf p r a ns).error = some error →
        error.kind = .assertion ∨ error.kind = .resolution := by
  obtain ⟨hselects, htests⟩ := of_prepare h
  obtain ⟨test, htest⟩ := htests a ha hfilter
  obtain @⟨s, found, hs, hv⟩ := hselects
  have hascending := Node.ascending_inOrder found
  refine ⟨⟨hascending, hascending.nodup, s, found, hs, hv, Node.mem_inOrder found⟩, test, htest,
    resultOf_of_satisfied htest, fun k n hn hk hbefore => ⟨fun v hvalue => ?_, fun e herror => ?_,
      fun ns' => resultOf_congr_of_take htest hn hk hbefore⟩,
    fun error => kind_of_error_resultOf htest⟩
  · refine ⟨(List.getElem?_eq_some_iff.mp hn).1, _, rfl, ?_⟩
    rw [resultOf_of_not_satisfied htest hn hk hbefore, hvalue]
    rfl
  · rw [resultOf_of_not_satisfied htest hn hk hbefore, herror]
    rfl

/-- the second item of the invoice has no quantity, and the result says so in its words -/
theorem resultOf_of_prepare_invoice :
    let run := invoiceSchema.runOf invoice .root .all .standard ⟨0, 0, 0⟩
    let p := Pattern.new "items"
    let a := Assertion.new "quantity" .assert .fatal "@qty > 0" (.parse "{@sku} has no quantity")
    let r := (Rule.new "item").addAssertion a
    let ns : List Node := [⟨[0, 0], 0⟩, ⟨[1, 0], 0⟩]
    run.prepare p r = .ok ns ∧ a ∈ r.assertions ∧ run.filter a = true ∧
      ∃ test, compile a.test .xpath1 .full = .ok test ∧
        run.Satisfied p r a.kind test ns 0 ∧ ¬ run.Satisfied p r a.kind test ns 1 ∧
        run.resultOf p r a ns =
          { Result.ofAssertion p r a with
            total := 2, pass := 1, message := "B2 has no quantity",
            error := some (.assertion "B2 has no quantity") } := by
  intro run p a r ns
  have hprepare : run.prepare p r = .ok ns := eq_ok_of_toOption (by decide +kernel)
  have ha : a ∈ r.assertions := List.mem_singleton_self a
  obtain ⟨-, test, htest, -, hfails, -⟩ := resultOf_of_prepare hprepare ha rfl
  have hvalues : (compile a.test .xpath1 .full).toOption.any (fun test =>
      (test.evaluate (run.context p r ⟨[0, 0], 0⟩ 1 2)).toOption.any (·.truth) &&
      (test.evaluate (run.context p r ⟨[1, 0], 0⟩ 2 2)).toOption.any fun v => !v.truth) = true := by
    decide +kernel
  obtain ⟨test', htest', hvalues⟩ := exists_ok_of_any hvalues
  cases htest.symm.trans htest'
  obtain ⟨hfirst, hsecond⟩ := Bool.and_eq_true_iff.mp hvalues
  obtain ⟨v, hv, htrue⟩ := exists_ok_of_any hfirst
  obtain ⟨w, hw, hfalse⟩ := exists_ok_of_any hsecond
  have hsatisfied : run.Satisfied p r a.kind test ns 0 := ⟨_, rfl, v, hv, htrue⟩
  have hnot : ¬ run.Satisfied p r a.kind test ns 1 := by
    rintro ⟨n, hn, v', hv', htrue'⟩
    cases hn
    cases hw.symm.trans hv'
    have hopposite : (!w.truth) = true := hfalse
    rw [show w.truth = true from htrue'] at hopposite
    cases hopposite
  obtain ⟨hvalue, -⟩ := hfails 1 _ rfl hnot fun i hi => by
    obtain rfl : i = 0 := Nat.lt_one_iff.mp hi
    exact hsatisfied
  obtain ⟨-, message, hmessage, hresult⟩ := hvalue w hw
  have hrendered : a.message.render (run.context p r ⟨[1, 0], 0⟩ 2 2) .xpath1 =
      "B2 has no quantity" := by
    decide +kernel
  obtain rfl : message = "B2 has no quantity" := hmessage.trans hrendered
  exact ⟨hprepare, ha, rfl, test, htest, hsatisfied, hnot, hresult⟩

end Run

end Rulebook
