import Rulebook.Proofs.Evaluation.Reading
import Rulebook.Proofs.Number.Whole
import Rulebook.Proofs.Safety.Evaluate

/-!
# Ranges

What a range consists of, and evaluation as a whole: it does not panic.

* `integers`                the whole numbers from one to another;
* `evaluateChecked_range`   a range between bounds that are accepted.

`evaluateChecked_ne_panic`: **no evaluation panics, no call of a built-in function reads an argument
that it does not have, and a range between two bounds is refused for its length alone.**
-/

set_option autoImplicit false

namespace Rulebook

open Checked

/-! ## the numbers of a range -/

/-- the whole numbers from one to another, both included -/
def integers (first last : Int) : List Int :=
  (List.range (last - first + 1).toNat).map fun i => first + Int.ofNat i

theorem rangeItems_eq (first last : Int) : rangeItems first last =
    (integers first last).map fun k => .atomic (.number (Number.ofInt k)) := by
  unfold rangeItems integers
  rw [List.map_map]
  rfl

theorem length_integers (first last : Int) :
    (integers first last).length = (last - first + 1).toNat := by
  unfold integers
  rw [List.length_map, List.length_range]

theorem pairwise_integers (first last : Int) : (integers first last).Pairwise (· < ·) :=
  List.pairwise_map.mpr (List.pairwise_lt_range.imp fun {i j} h => by
    show first + (i : Int) < first + (j : Int)
    omega)

theorem mem_integers {first last k : Int} : k ∈ integers first last ↔ first ≤ k ∧ k ≤ last := by
  unfold integers
  rw [List.mem_map]
  constructor
  · rintro ⟨i, hi, rfl⟩
    have hlt := List.mem_range.mp hi
    show first ≤ first + (i : Int) ∧ first + (i : Int) ≤ last
    omega
  · rintro ⟨hfirst, hlast⟩
    refine ⟨(k - first).toNat, List.mem_range.mpr (by omega), ?_⟩
    show first + ((k - first).toNat : Int) = k
    omega

/-- a range is too long if it has more numbers than allowed -/
theorem rangeValue_eq (first last : Int) : rangeValue (some first) (some last) =
    if maxRangeLength < (integers first last).length then .error (.rangeTooLong first last)
    else .ok ((integers first last).map fun k => .atomic (.number (Number.ofInt k))) := by
  have hmax : (maxRangeLength : Int) = 1048576 := rfl
  have hlonger : last - first ≥ maxRangeLength ↔
      maxRangeLength < (integers first last).length := by
    rw [length_integers]
    omega
  rw [rangeValue, rangeItems_eq]
  exact if_congr hlonger rfl rfl

theorem toInt?_of_mem_integers {first last k : Int} (hfirst : first.natAbs ≤ maxExact)
    (hlast : last.natAbs ≤ maxExact) (hk : k ∈ integers first last) :
    Number.toInt? (Number.ofInt k) = some k := by
  obtain ⟨hle, hge⟩ := mem_integers.mp hk
  exact Number.toInt?_ofInt (show k.natAbs ≤ maxExact by omega)

/-! ## evaluation -/

/-- a range between bounds that are accepted -/
theorem evaluateChecked_range {e₁ e₂ : Expr} {c : Context} {v w : Value} {first last : Int}
    (h₁ : e₁.evaluate c = .ok v) (h₂ : e₂.evaluate c = .ok w)
    (hfirst : rangeBound? c.document v = .ok (some first))
    (hlast : rangeBound? c.document w = .ok (some last)) :
    (Expr.range e₁ e₂).evaluateChecked c = of (rangeValue (some first) (some last)) := by
  rw [Expr.evaluateChecked_eq, Expr.evaluate_eq, Expr.evaluateWith, ← Expr.evaluate_eq,
    ← Expr.evaluate_eq, h₁, h₂]
  show of (rangeBound? c.document v >>= fun a => rangeBound? c.document w >>= fun b => _) = _
  rw [hfirst, hlast]
  rfl

/-- **Evaluation does not panic.**  Whatever the expression and the context, with all operations
checked it has the outcome that it has without the checks.  A call of a built-in function either has
a wrong number of arguments, or reads only arguments that are there.  A range accepts whole numbers
of at most `2 ^ 53` as its bounds.  The difference of two such fits a word; the range is refused if it
has more numbers than allowed, and else consists of all whole numbers between the two in ascending
order, each held exactly. -/
theorem evaluateChecked_ne_panic :
    (∀ (e : Expr) (c : Context), e.evaluateChecked c = of (e.evaluate c) ∧
      ∀ p, e.evaluateChecked c ≠ .error (.panic p)) ∧
    (∀ (b : Builtin) (args : List Value) (c : Context),
      b.invokeChecked args c = of (b.invoke args c) ∧
        (b.invokeChecked args c = .error (.error (b.wrongArity args.length)) ∨
          ∀ p, b.dispatchChecked args c ≠ .error (.panic p))) ∧
    (∀ (d : Document) (v : Value) (n : Int), rangeBound? d v = .ok (some n) ↔
      ∃ a, v.single? d = .ok (some a) ∧ Number.toInt? a.asNumber = some n ∧
        n.natAbs ≤ maxExact) ∧
    ∀ (e₁ e₂ : Expr) (c : Context) (v w : Value) (first last : Int),
      e₁.evaluate c = .ok v → e₂.evaluate c = .ok w →
      rangeBound? c.document v = .ok (some first) → rangeBound? c.document w = .ok (some last) →
      subtract last first = .ok (last - first) ∧
      ∃ ks : List Int, ks.Pairwise (· < ·) ∧ (∀ k, k ∈ ks ↔ first ≤ k ∧ k ≤ last) ∧
        (∀ k ∈ ks, Number.toInt? (Number.ofInt k) = some k) ∧
        (Expr.range e₁ e₂).evaluateChecked c =
          if maxRangeLength < ks.length then .error (.error (.rangeTooLong first last))
          else .ok (ks.map fun k => .atomic (.number (Number.ofInt k))) := by
  refine ⟨fun e c => ?_, fun b args c => ⟨b.invokeChecked_eq args c, ?_⟩,
    fun d v n => rangeBound?_eq_some_iff, fun e₁ e₂ c v w first last h₁ h₂ hfirst hlast => ?_⟩
  · have heq := e.evaluateChecked_eq c
    exact ⟨heq, fun p => heq ▸ of_ne_panic _ p⟩
  · cases h : b.admits args.length with
    | true => exact .inr fun p => b.dispatchChecked_eq args c h ▸ of_ne_panic _ p
    | false =>
      refine .inl ?_
      rw [b.invokeChecked_eq, b.invoke_of_not_admits args c h]
      rfl
  · have hle₁ := natAbs_le_of_rangeBound? hfirst
    have hle₂ := natAbs_le_of_rangeBound? hlast
    refine ⟨subtract_of_natAbs_le hle₁ hle₂, integers first last,
      pairwise_integers first last, fun k => mem_integers,
      fun k => toInt?_of_mem_integers hle₁ hle₂, ?_⟩
    rw [evaluateChecked_range h₁ h₂ hfirst hlast, rangeValue_eq]
    split <;> rfl

/-- from the last whole number but one that is held exactly to the last one -/
theorem evaluateChecked_ne_panic_invoice :
    let e₁ := Expr.number (Number.ofInt 9007199254740991)
    let e₂ := Expr.number (Number.ofInt 9007199254740992)
    let v := Value.ofNumber (Number.ofInt 9007199254740991)
    let w := Value.ofNumber (Number.ofInt 9007199254740992)
    e₁.evaluate wholeInvoice = .ok v ∧ e₂.evaluate wholeInvoice = .ok w ∧
    rangeBound? wholeInvoice.document v = .ok (some 9007199254740991) ∧
    rangeBound? wholeInvoice.document w = .ok (some 9007199254740992) ∧
    ∃ ks : List Int, ks.Pairwise (· < ·) ∧
      (∀ k, k ∈ ks ↔ 9007199254740991 ≤ k ∧ k ≤ 9007199254740992) ∧
      (Expr.range e₁ e₂).evaluateChecked wholeInvoice =
        if maxRangeLength < ks.length then
          .error (.error (.rangeTooLong 9007199254740991 9007199254740992))
        else .ok (ks.map fun k => .atomic (.number (Number.ofInt k))) := by
  have hfirst : rangeBound? wholeInvoice.document
      (.ofNumber (Number.ofInt 9007199254740991)) = .ok (some 9007199254740991) :=
    eq_ok_of_toOption (by decide +kernel)
  have hlast : rangeBound? wholeInvoice.document
      (.ofNumber (Number.ofInt 9007199254740992)) = .ok (some 9007199254740992) :=
    eq_ok_of_toOption (by decide +kernel)
  obtain ⟨-, ks, hascending, hmem, -, hvalue⟩ :=
    evaluateChecked_ne_panic.2.2.2 (.number _) (.number _) wholeInvoice _ _ _ _ rfl rfl hfirst hlast
  exact ⟨rfl, rfl, hfirst, hlast, ks, hascending, hmem, hvalue⟩

end Rulebook
