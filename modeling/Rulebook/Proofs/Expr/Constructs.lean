import Rulebook.Eval.Evaluate
import Rulebook.Proofs.Expr.Parts

/-!
# Constructs of the second language

The first language is the second one without conditions, quantifiers, ranges, sequences and
comparisons of single values.

* `Expr.Extended`   an expression with such a construct at its top;
* `Expr.Occurs`     an expression stands in another one, however deep and in whatever place.

`compile_xpath1_iff`: **the first binding compiles what the second one compiles to an expression in
which none of these constructs occurs, and to that expression.**
-/

set_option autoImplicit false

namespace Rulebook

namespace Expr

/-- a construct of the second language stands at the top -/
inductive Extended : Expr → Prop
  | conditional (test yes no : Expr) : Extended (.conditional test yes no)
  | quantified (q : Quantifier) (clauses : List Clause) (satisfies : Expr) :
    Extended (.quantified q clauses satisfies)
  | range (first last : Expr) : Extended (.range first last)
  | sequence (items : List Expr) : Extended (.sequence items)
  | valueComparison (r : Relation) (left right : Expr) : Extended (.binary (.value r) left right)

/-- an expression occurs in itself, and wherever it occurs in something directly inside -/
inductive Occurs (x : Expr) : Expr → Prop
  | here : Occurs x x
  | inside {e y : Expr} (hy : y ∈ e.children) (h : Occurs x y) : Occurs x e

/-- the parts of an expression are what occurs in it -/
theorem mem_parts_iff {x e : Expr} : x ∈ e.parts true ↔ x.Occurs e := by
  constructor
  · induction e using Expr.induction with
    | step e ih =>
      intro h
      by_cases hxe : x = e
      · exact hxe ▸ .here
      · obtain ⟨y, hy, h⟩ := exists_mem_children_of_mem_parts h hxe
        exact .inside hy (ih y hy h)
  · intro h
    induction h with
    | here => exact mem_parts_self true x
    | inside hy _ ih => exact parts_subset_of_mem_children hy ih

theorem construct?_eq_none_iff {e : Expr} : e.construct? = none ↔ ¬ e.Extended := by
  constructor
  · rintro h (_ | _ | _ | _ | _) <;> cases h
  · intro h
    cases e with
    | conditional test yes no => exact absurd (.conditional test yes no) h
    | quantified q clauses satisfies => exact absurd (.quantified q clauses satisfies) h
    | range first last => exact absurd (.range first last) h
    | sequence items => exact absurd (.sequence items) h
    | binary op left right =>
      cases op with
      | value r => exact absurd (.valueComparison r left right) h
      | _ => rfl
    | _ => rfl

/-- the search for constructs misses no place -/
theorem findConstruct?_eq_none_iff {e : Expr} :
    e.findConstruct? = none ↔ ∀ x : Expr, x.Occurs e → ¬ x.Extended := by
  unfold findConstruct?
  rw [List.findSome?_eq_none_iff]
  exact forall_congr' fun x => imp_congr mem_parts_iff construct?_eq_none_iff

end Expr

/-- the first binding checks for constructs, and then does what the second one does -/
theorem compile_xpath1_eq_ok_iff {source : String} {dialect : Dialect} {c : Compiled} :
    compile source .xpath1 dialect = .ok c ↔
      ∃ c', compile source .xpath2 dialect = .ok c' ∧ c'.expr.findConstruct? = none ∧
        c = { c' with binding := .xpath1 } := by
  simp only [compile_eq_ok_iff, Expr.check_eq_ok_iff]
  constructor
  · rintro ⟨e, hparse, ⟨hconstruct, huse⟩, rfl⟩
    exact ⟨⟨source, .xpath2, dialect, e⟩, ⟨e, hparse, ⟨nofun, huse⟩, rfl⟩, hconstruct trivial, rfl⟩
  · rintro ⟨_, ⟨e, hparse, ⟨-, huse⟩, rfl⟩, hconstruct, rfl⟩
    exact ⟨e, hparse, ⟨fun _ => hconstruct, huse⟩, rfl⟩

/-- **The first language is the second one without its own constructs.**  A text compiles under the
first binding if and only if it compiles under the second and no construct of that occurs anywhere
in the expression; and then both have the same expression, with the same outcome in every context. -/
theorem compile_xpath1_iff (source : String) (dialect : Dialect) :
    ((∃ c, compile source .xpath1 dialect = .ok c) ↔
      ∃ c, compile source .xpath2 dialect = .ok c ∧
        ∀ x : Expr, x.Occurs c.expr → ¬ x.Extended) ∧
    ∀ c₁ c₂, compile source .xpath1 dialect = .ok c₁ → compile source .xpath2 dialect = .ok c₂ →
      c₁.expr = c₂.expr ∧ ∀ c : Context, c₁.evaluate c = c₂.evaluate c := by
  constructor
  · simp only [compile_xpath1_eq_ok_iff, Expr.findConstruct?_eq_none_iff]
    constructor
    · rintro ⟨_, c, hc, hnone, -⟩
      exact ⟨c, hc, hnone⟩
    · rintro ⟨c, hc, hnone⟩
      exact ⟨_, c, hc, hnone, rfl⟩
  · intro c₁ c₂ h₁ h₂
    obtain ⟨c', hc', -, rfl⟩ := compile_xpath1_eq_ok_iff.mp h₁
    cases h₂.symm.trans hc'
    exact ⟨rfl, fun _ => rfl⟩

end Rulebook
