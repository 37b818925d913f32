import Rulebook.Expr.Basic

/-!
# Substitution

* `Expr.substitute`   an expression with another one for each of its variables, also in predicates,
                      at the beginnings of paths and in arguments;
* `Expr.replaceVar`   the same for a single variable.

What a quantifier binds is replaced like everything else, so both are meant for expressions in which
the variables that are replaced are not bound.
-/

set_option autoImplicit false

namespace Rulebook

mutual

def Expr.substitute (σ : String → Expr) : Expr → Expr
  | .literal text => .literal text
  | .number value => .number value
  | .path origin steps => .path (origin.substitute σ) (Expr.substituteSteps σ steps)
  | .var name => σ name
  | .call name args => .call name (Expr.substituteList σ args)
  | .binary op left right => .binary op (left.substitute σ) (right.substitute σ)
  | .negate operand => .negate (operand.substitute σ)
  | .filter base predicates => .filter (base.substitute σ) (Expr.substituteList σ predicates)
  | .sequence items => .sequence (Expr.substituteList σ items)
  | .conditional test yes no =>
    .conditional (test.substitute σ) (yes.substitute σ) (no.substitute σ)
  | .quantified q clauses satisfies =>
    .quantified q (Expr.substituteClauses σ clauses) (satisfies.substitute σ)
  | .range first last => .range (first.substitute σ) (last.substitute σ)

def Origin.substitute (σ : String → Expr) : Origin → Origin
  | .context => .context
  | .root => .root
  | .value e => .value (e.substitute σ)

def Expr.substituteList (σ : String → Expr) : List Expr → List Expr
  | [] => []
  | e :: es => e.substitute σ :: Expr.substituteList σ es

def Expr.substituteSteps (σ : String → Expr) : List Step → List Step
  | [] => []
  | s :: ss => s.substitute σ :: Expr.substituteSteps σ ss

def Step.substitute (σ : String → Expr) : Step → Step
  | ⟨axis, test, predicates⟩ => ⟨axis, test, Expr.substituteList σ predicates⟩

def Expr.substituteClauses (σ : String → Expr) : List Clause → List Clause
  | [] => []
  | clause :: clauses => clause.substitute σ :: Expr.substituteClauses σ clauses

def Clause.substitute (σ : String → Expr) : Clause → Clause
  | ⟨name, domain⟩ => ⟨name, domain.substitute σ⟩

end

/-- an expression for one variable, every other variable for itself -/
def Expr.assign (x : String) (e : Expr) (name : String) : Expr := if name = x then e else .var name

def Expr.replaceVar (t : Expr) (x : String) (e : Expr) : Expr := t.substitute (.assign x e)

/-! ## replacing nothing -/

mutual

theorem Expr.substitute_var (e : Expr) : e.substitute .var = e := by
  match e with
  | .literal _ | .number _ | .var _ => rfl
  | .path origin steps =>
    rw [Expr.substitute, origin.substitute_var, Expr.substituteSteps_var steps]
  | .call name args => rw [Expr.substitute, Expr.substituteList_var args]
  | .binary op left right => rw [Expr.substitute, left.substitute_var, right.substitute_var]
  | .negate operand => rw [Expr.substitute, operand.substitute_var]
  | .filter base predicates =>
    rw [Expr.substitute, base.substitute_var, Expr.substituteList_var predicates]
  | .sequence items => rw [Expr.substitute, Expr.substituteList_var items]
  | .conditional test yes no =>
    rw [Expr.substitute, test.substitute_var, yes.substitute_var, no.substitute_var]
  | .quantified q clauses satisfies =>
    rw [Expr.substitute, Expr.substituteClauses_var clauses, satisfies.substitute_var]
  | .range first last => rw [Expr.substitute, first.substitute_var, last.substitute_var]

theorem Origin.substitute_var (o : Origin) : o.substitute .var = o := by
  match o with
  | .context | .root => rfl
  | .value e => rw [Origin.substitute, e.substitute_var]

theorem Expr.substituteList_var (es : List Expr) : Expr.substituteList .var es = es := by
  match es with
  | [] => rfl
  | e :: es => rw [Expr.substituteList, e.substitute_var, Expr.substituteList_var es]

theorem Expr.substituteSteps_var (ss : List Step) : Expr.substituteSteps .var ss = ss := by
  match ss with
  | [] => rfl
  | ⟨axis, test, predicates⟩ :: ss =>
    rw [Expr.substituteSteps, Step.substitute, Expr.substituteList_var predicates,
      Expr.substituteSteps_var ss]

theorem Expr.substituteClauses_var (cs : List Clause) : Expr.substituteClauses .var cs = cs := by
  match cs with
  | [] => rfl
  | ⟨name, domain⟩ :: cs =>
    rw [Expr.substituteClauses, Clause.substitute, domain.substitute_var,
      Expr.substituteClauses_var cs]

end

end Rulebook
