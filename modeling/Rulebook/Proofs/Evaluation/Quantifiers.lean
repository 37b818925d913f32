import Rulebook.Proofs.Evaluation.Limits

/-!
# Quantifiers are dual

A quantifier looks at its items in turn and stops at the first that decides.

* `Quantifier.dual`     the quantifier that stops where this one goes on;
* `Expr.negated`        the call of `not` on an expression;
* `Context.PlainNot`    no declared function has the name `not`.

`evaluate_every_eq`: **all choices of items satisfy a condition if and only if it is not so that some
choice satisfies its negation**, and what goes wrong on one side goes wrong on the other.
-/

set_option autoImplicit false

namespace Rulebook

def Quantifier.dual : Quantifier → Quantifier
  | some => every
  | every => some

/-- `not(e)` -/
def Expr.negated (e : Expr) : Expr := .call "not" [e]

/-- no declared function has the name `not` -/
def Context.PlainNot (c : Context) : Prop := c.scope.function? "not" = none

/-! ## negations -/

theorem Context.PlainNot.ofName? {c : Context} (h : c.PlainNot) :
    Callable.ofName? c.scope "not" = some (.builtin .not) := by
  have hbuiltin : Builtin.ofName? "not" = some .not := by decide +kernel
  unfold Callable.ofName?
  rw [show c.scope.function? "not" = none from h, hbuiltin]
  rfl

theorem Context.PlainNot.bindItem {c : Context} (h : c.PlainNot) (name : String) (i : Item) :
    (c.bindItem name i).PlainNot := h

theorem Expr.evaluateWith_negated (inner : Evaluator) (e : Expr) {c : Context} (h : c.PlainNot) :
    e.negated.evaluateWith inner c = (e.evaluateWith inner c).map fun v => .ofBool !v.truth := by
  rw [negated, evaluateWith, h.ofName?]
  simp only [evaluateAll]
  cases e.evaluateWith inner c <;> rfl

/-- the condition that a negation decides -/
theorem Expr.truth_of_negated (inner : Evaluator) (e : Expr) {c : Context} (h : c.PlainNot) :
    (e.negated.evaluateWith inner c).map Value.truth =
      ((e.evaluateWith inner c).map Value.truth).map not := by
  rw [evaluateWith_negated inner e h]
  cases e.evaluateWith inner c <;> rfl

/-! ## the items of one clause -/

/-- where the negation of the test decides for the dual, the test decides for the quantifier -/
theorem quantify_dual (q : Quantifier) {test test' : Item → Except EvalError Bool}
    (h : ∀ i, test' i = (test i).map not) (v : Value) :
    quantify q.dual test' v = (quantify q test v).map not := by
  induction v with
  | nil => cases q <;> rfl
  | cons i v ih =>
    rw [quantify, quantify, h i]
    cases test i with
    | error e => rfl
    | ok holds =>
      show (if (!holds) == (q.dual == .some) then .ok (!holds) else quantify q.dual test' v) =
        (if holds == (q == .some) then .ok holds else quantify q test v).map not
      rw [ih]
      cases q <;> cases holds <;> rfl

/-! ## several clauses -/

/-- the bodies are asked in contexts that the clauses make, which declare no functions -/
theorem evaluateClauses_dual (inner : Evaluator) (q : Quantifier)
    {body body' : Context → Except EvalError Bool}
    (h : ∀ c : Context, c.PlainNot → body' c = (body c).map not) (clauses : List Clause)
    {c : Context} (hc : c.PlainNot) :
    evaluateClauses inner q.dual body' clauses c =
      (evaluateClauses inner q body clauses c).map not := by
  induction clauses generalizing c with
  | nil =>
    rw [evaluateClauses, evaluateClauses]
    exact h c hc
  | cons clause rest ih =>
    rw [evaluateClauses, evaluateClauses]
    cases clause.domainWith inner c with
    | error e => rfl
    | ok v => exact quantify_dual q (fun i => ih (hc.bindItem clause.name i)) v

theorem Expr.evaluateWith_quantified_dual (inner : Evaluator) (q : Quantifier)
    (clauses : List Clause) (satisfies : Expr) {c : Context} (h : c.PlainNot) :
    (Expr.quantified q clauses satisfies).evaluateWith inner c =
      (Expr.quantified q.dual clauses satisfies.negated).negated.evaluateWith inner c := by
  have hclauses := evaluateClauses_dual inner q
    (fun d hd => satisfies.truth_of_negated inner (c := d) hd) clauses h
  rw [evaluateWith_negated inner _ h, evaluateWith, evaluateWith, hclauses]
  cases evaluateClauses inner q _ clauses c with
  | error e => rfl
  | ok holds => cases holds <;> rfl

/-- **`every` is dual to `some`.**  Where no function is declared with the name `not`, a condition
for every choice of items has the outcome, a truth value or an error, of the negation that some
choice satisfies the negated condition, and the other way round.  There may be any number of clauses,
and later ones may depend on the items of earlier ones. -/
theorem evaluate_every_eq (clauses : List Clause) (satisfies : Expr) (c : Context)
    (h : c.scope.function? "not" = none) :
    (Expr.quantified .every clauses satisfies).evaluate c =
        (Expr.call "not" [.quantified .some clauses (.call "not" [satisfies])]).evaluate c ∧
      (Expr.quantified .some clauses satisfies).evaluate c =
        (Expr.call "not" [.quantified .every clauses (.call "not" [satisfies])]).evaluate c := by
  simp only [Expr.evaluate_eq]
  exact ⟨Expr.evaluateWith_quantified_dual _ .every clauses satisfies h,
    Expr.evaluateWith_quantified_dual _ .some clauses satisfies h⟩

/-- every quantity of every item is positive, which that of the second item is not -/
theorem evaluate_every_eq_invoice :
    let clauses : List Clause :=
      [⟨"item", .path .root [.anywhere, ⟨.child, .named none "item", []⟩]⟩,
        ⟨"quantity", .path (.value (.var "item")) [⟨.attribute, .named none "qty", []⟩]⟩]
    let positive : Expr := .binary (.general .gt) (.var "quantity") (.number 0)
    wholeInvoice.scope.function? "not" = none ∧
      ((Expr.quantified .every clauses positive).evaluate wholeInvoice).toOption.map Value.truth =
        some false ∧
      (Expr.quantified .every clauses positive).evaluate wholeInvoice =
        (Expr.call "not" [.quantified .some clauses (.call "not" [positive])]).evaluate
          wholeInvoice := by
  intro clauses positive
  have hplain : wholeInvoice.scope.function? "not" = none := rfl
  exact ⟨hplain, by decide +kernel, (evaluate_every_eq clauses positive wholeInvoice hplain).1⟩

end Rulebook
