import Rulebook.Proofs.Evaluation.Limits

/-!
# Variables and their definitions

A variable is evaluated anew at each reference: where it was declared, about the item of the
reference, and one level deeper.  Where it is declared in the very scope of an expression, the
definition can therefore stand in its place.

* `Agreement.declaring`   a context beside itself, in the scope of a declaration.

`evaluate_replaceVar`: **an expression without quantifiers has the outcome that it has with the
definition for the variable**, unless it exceeds the limit on definitions.
-/

set_option autoImplicit false

namespace Rulebook

/-- a context beside itself: the scope has the given levels of declarations, the limit is as given,
and so many definitions are left -/
def Agreement.declaring (env : Environment) (limit n : Nat) : Agreement where
  rel _ c c' := c = c' ∧ c.scope = .ofEnvironment env ∧ c.maxDepth = limit ∧ c.remaining = n
  document h := congrArg _ h.1
  root h := congrArg _ h.1
  scope h := congrArg _ h.1
  namespaces h := congrArg _ h.1
  focus i position size h := ⟨congrArg (Context.focus · i position size) h.1, h.2⟩

section
variable {d : Declarations} {outer : Environment} {x : String} {definition : Compiled}
  (hx : d.definitions.get? x = some definition)
include hx

theorem evaluateVariable_of_local (inner : Evaluator) {c : Context}
    (hc : c.scope = .ofEnvironment (d :: outer)) :
    evaluateVariable inner x c = c.descend >>= fun deeper =>
      inner definition.expr (deeper.withScope c.scope) := by
  have hlookup : c.scope.lookup x = some (.definition definition (d :: outer)) := by
    rw [hc, Scope.lookup, Scope.ofEnvironment, Environment.definition?, hx]
    rfl
  unfold evaluateVariable
  rw [hlookup, hc]

/-- a reference gives what the definition gives in its place, or is one level too deep -/
theorem evaluateVariable_same_definition {c : Context}
    (hc : c.scope = .ofEnvironment (d :: outer)) :
    SameUnless (· = .depthExceeded c.maxDepth)
      (evaluateVariable (Expr.definitionsWithin c.remaining) x c) (definition.expr.evaluate c) := by
  rw [evaluateVariable_of_local hx _ hc]
  cases hdeeper : c.descend with
  | error e =>
    unfold Context.descend at hdeeper
    split at hdeeper <;> cases hdeeper
    exact .inl ⟨_, rfl, rfl⟩
  | ok deeper =>
    show SameUnless _ (Expr.definitionsWithin c.remaining definition.expr _) _
    rw [Expr.definitionsWithin_of_descend hdeeper]
    obtain ⟨-, rfl⟩ := Context.descend_eq_ok_iff.mp hdeeper
    -- the definition is in its own scope again, with one level less than the reference
    exact definition.expr.evaluate_raised (c := { c with depth := c.depth + 1 })
      (Nat.sub_le_sub_left (Nat.le_succ _) _)

theorem leafSame_declaring (limit n : Nat) (inside : Bool) {t : Expr}
    (ht : t.construct? ≠ some .quantified) :
    (Agreement.declaring (d :: outer) limit n).LeafSame (· = .depthExceeded limit)
      (Expr.definitionsWithin n) (Expr.definitionsWithin n)
      (.assign x definition.expr) inside t := by
  match t with
  | .path .context _ =>
    rintro c _ ⟨rfl, -⟩
    rfl
  | .var name =>
    rintro c _ ⟨rfl, hscope, rfl, rfl⟩
    by_cases hname : name = x
    · subst hname
      rw [Expr.assign, if_pos rfl, ← Expr.evaluate_eq]
      exact evaluateVariable_same_definition hx hscope
    · rw [Expr.assign, if_neg hname]
      exact .refl _
  | .call name args =>
    rintro c _ f vs ⟨rfl, -⟩ - -
    exact .refl _
  | .quantified _ _ _ => exact absurd rfl ht
  | .literal _ | .number _ | .path .root _ | .path (.value _) _ | .binary .. | .negate _
  | .filter .. | .sequence _ | .conditional .. | .range .. => exact trivial

/-- **A declared variable means its definition.**  In the scope that declares a variable an
expression without quantifiers has the outcome that it has with the definition in the place of the
variable, unless it exceeds the limit on definitions. -/
theorem evaluate_replaceVar {t : Expr} (ht : ∀ s ∈ t.parts true, s.construct? ≠ some .quantified)
    {c : Context} (hc : c.scope = .ofEnvironment (d :: outer))
    (h : t.evaluate c ≠ .error (.depthExceeded c.maxDepth)) :
    (t.replaceVar x definition.expr).evaluate c = t.evaluate c := by
  have hleaves : (Agreement.declaring (d :: outer) c.maxDepth c.remaining).LeavesSame
      (· = .depthExceeded c.maxDepth) (Expr.definitionsWithin c.remaining)
      (Expr.definitionsWithin c.remaining)
      (.assign x definition.expr) true
      (t.parts false) (t.parts true) :=
    ⟨fun s hs => leafSame_declaring hx _ _ _ (ht s (t.parts_false_sublist.subset hs)),
      fun s hs => leafSame_declaring hx _ _ _ (ht s hs)⟩
  rw [Expr.evaluate_eq] at h
  rw [Expr.evaluate_eq, Expr.evaluate_eq]
  rcases t.evaluateWith_substitute_same hleaves ⟨rfl, hc, rfl, rfl⟩ with ⟨e, he, rfl⟩ | hsame
  · exact absurd he h
  · exact hsame.symm

end

/-- a single variable -/
def Declarations.single (name : String) (definition : Compiled) : Declarations :=
  .define ∅ name definition

theorem Declarations.get?_single (name : String) (definition : Compiled) :
    (single name definition).definitions.get? name = some definition := by
  rw [single, define, Table.get?_insert, if_pos rfl]

/-- the whole invoice with a variable -/
def declaringInvoice (name : String) (definition : Compiled) : Context :=
  { wholeInvoice with scope := .ofEnvironment [.single name definition] }

/-- the definition asks for the quantity and the place of each item -/
theorem evaluate_replaceVar_invoice : ∃ weight t : Compiled,
    compile "@qty * position()" .xpath1 .full = .ok weight ∧
    compile "string(//item[$weight = 2]/@sku)" .xpath1 .full = .ok t ∧
    (∀ s ∈ t.expr.parts true, s.construct? ≠ some .quantified) ∧ ∃ v,
      t.expr.evaluate (declaringInvoice "weight" weight) = .ok v ∧ v.text invoice = "A1" ∧
      (t.expr.replaceVar "weight" weight.expr).evaluate (declaringInvoice "weight" weight) =
        t.expr.evaluate (declaringInvoice "weight" weight) := by
  have hrun : (compile "@qty * position()" .xpath1 .full).toOption.any (fun weight =>
      (compile "string(//item[$weight = 2]/@sku)" .xpath1 .full).toOption.any fun t =>
      (t.expr.parts true).all (fun s => decide (s.construct? ≠ some .quantified)) &&
      (t.expr.evaluate (declaringInvoice "weight" weight)).toOption.any
        fun v => v.text invoice = "A1") = true := by
    decide +kernel
  obtain ⟨weight, hweight, hrun⟩ := exists_ok_of_any hrun
  obtain ⟨t, ht, hrun⟩ := exists_ok_of_any hrun
  obtain ⟨hparts, hrun⟩ := Bool.and_eq_true_iff.mp hrun
  obtain ⟨v, hv, htext⟩ := exists_ok_of_any hrun
  have hquantified : ∀ s ∈ t.expr.parts true, s.construct? ≠ some .quantified := fun s hs =>
    of_decide_eq_true (List.all_eq_true.mp hparts s hs)
  refine ⟨weight, t, hweight, ht, hquantified, v, hv, of_decide_eq_true htext, ?_⟩
  refine evaluate_replaceVar (Declarations.get?_single _ _) hquantified rfl ?_
  rw [hv]
  nofun

end Rulebook
