import Rulebook.Proofs.Evaluation.Agreement
import Rulebook.Proofs.Evaluation.Reading
import Rulebook.Proofs.Evaluation.Steps

/-!
# Limits on definitions

A context counts the definitions that lead to it and has a limit to their number.

* `Expr.definitionsWithin`  how definitions are evaluated where so many levels of them are left;
* `Context.Raised`          two contexts that are the same but for the count and the limit.

`evaluate_of_maxDepth_le`: **an outcome under a limit, unless it is the error of that limit, is the
outcome under every higher one.**
-/

set_option autoImplicit false

namespace Rulebook

/-! ## levels -/

def Expr.definitionsWithin : Nat → Evaluator
  | 0 => fun _ c => .error (.depthExceeded c.maxDepth)
  | n + 1 => Expr.evaluateWithin n

theorem Expr.evaluateWithin_eq (n : Nat) :
    Expr.evaluateWithin n = Expr.evaluateWith (Expr.definitionsWithin n) := by
  cases n <;> rfl

theorem Expr.evaluate_eq (e : Expr) (c : Context) :
    e.evaluate c = e.evaluateWith (Expr.definitionsWithin c.remaining) c := by
  rw [Expr.evaluate, Expr.evaluateWithin_eq]

theorem Context.remaining_of_descend {c deeper : Context} (h : c.descend = .ok deeper) :
    c.remaining = deeper.remaining + 1 := by
  obtain ⟨hlt, rfl⟩ := descend_eq_ok_iff.mp h
  show c.maxDepth - c.depth = c.maxDepth - (c.depth + 1) + 1
  omega

theorem Context.remaining_withScope (c : Context) (s : Scope) :
    (c.withScope s).remaining = c.remaining := rfl

/-- one level deeper the definitions that are left are those of the deeper context -/
theorem Expr.definitionsWithin_of_descend {c deeper : Context} (h : c.descend = .ok deeper)
    (e : Expr) (s : Scope) :
    Expr.definitionsWithin c.remaining e (deeper.withScope s) =
      e.evaluate (deeper.withScope s) := by
  rw [Context.remaining_of_descend h]
  rfl

/-! ## more room for definitions -/

/-- the same context with another count and another limit; the first has the given limit and leaves
`n` levels, the second leaves `n'` -/
inductive Context.Raised (limit n n' : Nat) : Context → Context → Prop
  | intro (c : Context) (depth maxDepth : Nat) (hlimit : c.maxDepth = limit)
    (hn : c.remaining = n) (hn' : maxDepth - depth = n') : Raised limit n n' c { c with depth, maxDepth }

namespace Context.Raised

variable {limit n n' : Nat} {c c' : Context}

theorem focus (h : c.Raised limit n n' c') (i : Item) (position size : Nat) :
    (c.focus i position size).Raised limit n n' (c'.focus i position size) := by
  obtain ⟨depth, maxDepth, hlimit, hn, hn'⟩ := h
  exact .intro (c.focus i position size) depth maxDepth hlimit hn hn'

theorem withScope (h : c.Raised limit n n' c') (s : Scope) :
    (c.withScope s).Raised limit n n' (c'.withScope s) := by
  obtain ⟨depth, maxDepth, hlimit, hn, hn'⟩ := h
  exact .intro (c.withScope s) depth maxDepth hlimit hn hn'

theorem scope_eq (h : c.Raised limit n n' c') : c.scope = c'.scope := by
  cases h
  rfl

theorem bindItem (h : c.Raised limit n n' c') (name : String) (i : Item) :
    (c.bindItem name i).Raised limit n n' (c'.bindItem name i) := by
  unfold Context.bindItem
  rw [← h.scope_eq]
  exact h.withScope _

/-- where the first leaves nothing it says so, and else both leave one level less -/
theorem descend (h : c.Raised limit n n' c') (hle : n ≤ n') :
    SameDescent (· = .depthExceeded limit)
      (fun d d' => ∃ k k', n = k + 1 ∧ n' = k' + 1 ∧ d.Raised limit k k' d') c c' := by
  obtain ⟨depth, maxDepth, hlimit, hn, hn'⟩ := h
  unfold Context.remaining at hn
  unfold SameDescent Context.descend
  by_cases hlt : c.depth < c.maxDepth
  · have hlt' : depth < maxDepth := by omega
    rw [if_pos hlt, if_pos hlt']
    refine .inr ⟨_, _, rfl, rfl, n - 1, n' - 1, by omega, by omega, ?_⟩
    exact .intro { c with depth := c.depth + 1 } (depth + 1) maxDepth hlimit
      (by unfold Context.remaining; dsimp only; omega) (by omega)
  · rw [if_neg hlt, hlimit]
    exact .inl ⟨_, rfl, .inl rfl⟩

theorem invoke_eq (h : c.Raised limit n n' c') (b : Builtin) (args : List Value) :
    b.invoke args c = b.invoke args c' := by
  refine Builtin.invoke_congr ?_ ?_ fun part _ => ?_
  · cases h
    rfl
  · cases h
    rfl
  · cases h
    cases part with
    | item | current => exact rfl
    | place => exact ⟨rfl, rfl⟩

end Context.Raised

def Agreement.raised (limit n n' : Nat) : Agreement where
  rel _ := Context.Raised limit n n'
  document h := by cases h; rfl
  root h := by cases h; rfl
  scope h := h.scope_eq
  namespaces h := by cases h; rfl
  focus i position size h := h.focus i position size

/-! ## outcomes -/

section
variable {limit n n' : Nat} {inner inner' : Evaluator}
  (hinner : ∀ k k', n = k + 1 → n' = k' + 1 → ∀ e d d', d.Raised limit k k' d' →
    SameUnless (· = .depthExceeded limit) (inner e d) (inner' e d'))
  (hle : n ≤ n')
include hinner hle

theorem leafSame_raised (inside : Bool) (x : Expr) :
    (Agreement.raised limit n n').LeafSame (· = .depthExceeded limit) inner inner' .var inside x := by
  match x with
  | .path .context _ =>
    intro c c' h
    cases h
    rfl
  | .var name =>
    intro c c' h
    refine evaluateVariable_same h.scope_eq (h.descend hle) fun e env _ d d' hd => ?_
    obtain ⟨k, k', hk, hk', hraised⟩ := hd
    exact hinner k k' hk hk' _ _ _ (hraised.withScope _)
  | .call name args =>
    intro c c' f vs h _ _
    cases f with
    | builtin b => exact .inr (h.invoke_eq b vs)
    | declared f =>
      refine f.call_same vs h.scope_eq (h.descend hle) fun s _ frame d d' hd => ?_
      obtain ⟨k, k', hk, hk', hraised⟩ := hd
      exact hinner k k' hk hk' _ _ _ (hraised.withScope _)
  | .quantified _ clauses _ => exact fun clause _ i c c' h => h.bindItem clause.name i
  | .literal _ | .number _ | .path .root _ | .path (.value _) _ | .binary .. | .negate _
  | .filter .. | .sequence _ | .conditional .. | .range .. => exact trivial

theorem evaluateWith_raised (e : Expr) {c c' : Context} (h : c.Raised limit n n' c') :
    SameUnless (· = .depthExceeded limit) (e.evaluateWith inner c) (e.evaluateWith inner' c') := by
  have hleaves : (Agreement.raised limit n n').LeavesSame (· = .depthExceeded limit) inner inner'
      .var true (e.parts false) (e.parts true) :=
    ⟨fun x _ => leafSame_raised hinner hle true x, fun x _ => leafSame_raised hinner hle true x⟩
  exact e.evaluateWith_same hleaves h

end

/-- one level of definitions more at a time, on both sides -/
theorem evaluateWithin_raised {limit n n' : Nat} (hle : n ≤ n') (e : Expr) {c c' : Context}
    (h : c.Raised limit n n' c') :
    SameUnless (· = .depthExceeded limit) (e.evaluateWithin n c) (e.evaluateWithin n' c') := by
  induction n generalizing n' e c c' with
  | zero =>
    rw [Expr.evaluateWithin_eq, Expr.evaluateWithin_eq]
    exact evaluateWith_raised (fun k _ hk => absurd hk.symm (Nat.succ_ne_zero k)) hle e h
  | succ n ih =>
    rw [Expr.evaluateWithin_eq, Expr.evaluateWithin_eq]
    refine evaluateWith_raised (fun k k' hk hk' e d d' hd => ?_) hle e h
    subst hk'
    obtain rfl : n = k := by omega
    exact ih (by omega) e hd

/-- a context with another count and another limit that leaves as many levels or more -/
theorem Expr.evaluate_raised (e : Expr) {c : Context} {depth maxDepth : Nat}
    (h : c.remaining ≤ maxDepth - depth) :
    SameUnless (· = .depthExceeded c.maxDepth) (e.evaluate c)
      (e.evaluate { c with depth, maxDepth }) :=
  evaluateWithin_raised h e (.intro c depth maxDepth rfl rfl rfl)

/-- **An outcome under a limit, unless it is the error of that limit, is the outcome under every
higher one.** -/
theorem evaluate_of_maxDepth_le (e : Expr) (c : Context) {d d' : Nat} (hd : d ≤ d')
    (h : e.evaluate { c with maxDepth := d } ≠ .error (.depthExceeded d)) :
    e.evaluate { c with maxDepth := d' } = e.evaluate { c with maxDepth := d } := by
  have hle : d - c.depth ≤ d' - c.depth := Nat.sub_le_sub_right hd _
  rcases e.evaluate_raised (c := { c with maxDepth := d }) hle with ⟨x, hx, rfl⟩ | hsame
  · exact absurd hx h
  · exact hsame.symm

/-- the whole invoice where a variable stands for an expression with another one in it -/
def chainedInvoice (outer inner : Compiled) : Context :=
  { wholeInvoice with
    scope := .ofEnvironment [⟨.insert (.insert ∅ "sku" inner) "label" outer, ∅⟩] }

/-- two levels of definitions are enough, and nine change nothing -/
theorem evaluate_of_maxDepth_le_invoice : ∃ label sku e : Compiled,
    compile "concat('#', $sku)" .xpath1 .literal = .ok label ∧
    compile "//item[2]/@sku" .xpath1 .literal = .ok sku ∧
    compile "$label" .xpath1 .full = .ok e ∧
    e.expr.evaluate { chainedInvoice label sku with maxDepth := 2 } ≠ .error (.depthExceeded 2) ∧
    e.expr.evaluate { chainedInvoice label sku with maxDepth := 9 } =
      e.expr.evaluate { chainedInvoice label sku with maxDepth := 2 } := by
  have hrun : (compile "concat('#', $sku)" .xpath1 .literal).toOption.any (fun label =>
      (compile "//item[2]/@sku" .xpath1 .literal).toOption.any fun sku =>
      (compile "$label" .xpath1 .full).toOption.any fun e =>
      (e.expr.evaluate { chainedInvoice label sku with maxDepth := 2 }).toOption.any
        fun v => v.text invoice = "#B2") = true := by
    decide +kernel
  obtain ⟨label, hlabel, hrun⟩ := exists_ok_of_any hrun
  obtain ⟨sku, hsku, hrun⟩ := exists_ok_of_any hrun
  obtain ⟨e, he, hrun⟩ := exists_ok_of_any hrun
  obtain ⟨v, hv, -⟩ := exists_ok_of_any hrun
  have hsettled : e.expr.evaluate { chainedInvoice label sku with maxDepth := 2 } ≠
      .error (.depthExceeded 2) := by
    rw [hv]
    nofun
  exact ⟨label, sku, e, hlabel, hsku, he, hsettled,
    evaluate_of_maxDepth_le e.expr (chainedInvoice label sku) (by decide) hsettled⟩

end Rulebook
