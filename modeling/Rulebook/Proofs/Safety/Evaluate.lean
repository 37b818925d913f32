import Rulebook.Eval.Evaluate
import Rulebook.Proofs.Evaluation.Limits
import Rulebook.Proofs.Safety.Axis
import Rulebook.Proofs.Safety.Builtin

/-!
# Evaluation that cannot panic

Evaluation with all its operations checked: positions and depths are counted in words, arguments are
read by their index, axes are turned round in place, and the length of a range is a difference.

* `Expr.evaluateCheckedWith`   an expression, given how definitions are evaluated;
* `Expr.evaluateChecked`       an expression with the definitions that its context allows.

`Expr.evaluateChecked_eq`: **evaluation does not panic**, whatever the expression, the declarations,
the context and the document: with the checks it ends as it does without them.
-/

set_option autoImplicit false
set_option linter.unusedSectionVars false

namespace Rulebook

open Checked

/-- how definitions are evaluated, with checks -/
abbrev CheckedEvaluator := Expr → Context → Checked Value

/-! ## definitions -/

/-- one definition deeper -/
def Context.descendChecked (c : Context) : Checked Context :=
  if c.maxDepth ≤ c.depth then .error (.error (.depthExceeded c.maxDepth))
  else do
    let depth ← addCount c.maxDepth c.depth 1
    return { c with depth }

def runBodyChecked (inner : CheckedEvaluator) (c : Context) (outer : Scope) (frame : Frame)
    (result : Value) : List Statement → Checked Value
  | [] => .ok result
  | .bind name e :: rest => do
    let v ← inner e.expr (c.withScope (outer.enter frame))
    runBodyChecked inner c outer (frame.bind name v) result rest
  | .yield e :: rest => do
    let v ← inner e.expr (c.withScope (outer.enter frame))
    runBodyChecked inner c outer frame (result ++ v) rest

def FunctionDecl.callChecked (inner : CheckedEvaluator) (f : FunctionDecl) (args : List Value)
    (c : Context) : Checked Value := do
  if args.length != f.arity then
    throw (.error (.arity f.name f.arity (some f.arity) args.length))
  let deeper ← c.descendChecked
  runBodyChecked inner deeper c.scope (f.frame args) [] f.body

def Callable.invokeChecked (inner : CheckedEvaluator) (f : Callable) (args : List Value)
    (c : Context) : Checked Value :=
  match f with
  | declared f => f.callChecked inner args c
  | builtin b => b.invokeChecked args c

def evaluateVariableChecked (inner : CheckedEvaluator) (name : String) (c : Context) :
    Checked Value :=
  match c.scope.lookup name with
  | some (.value v) => .ok v
  | some (.definition e env) => do
    let deeper ← c.descendChecked
    inner e.expr (deeper.withScope (.ofEnvironment env))
  | none => .error (.error (.unknownVariable name))

/-! ## predicates, quantifiers and ranges -/

/-- the items that a predicate keeps, each looked at with its index -/
def filterItemsChecked (test : Context → Checked Value) (c : Context) (size : Nat) :
    Nat → Value → Value → Checked Value
  | _, [], kept => .ok kept.reverse
  | i, item :: rest, kept => do
    let position ← addCount size i 1
    let v ← test (c.focus item position size)
    filterItemsChecked test c size (i + 1) rest (if keeps v position then item :: kept else kept)

def quantifyChecked (q : Quantifier) (test : Item → Checked Bool) : Value → Checked Bool
  | [] => .ok (q == .every)
  | i :: rest => do
    let holds ← test i
    if holds == (q == .some) then return holds else quantifyChecked q test rest

def rangeChecked : Option Int → Option Int → Checked Value
  | some first, some last => do
    let length ← subtract last first
    if length ≥ maxRangeLength then throw (.error (.rangeTooLong first last))
    else return rangeItems first last
  | _, _ => .ok []

/-! ## expressions -/

mutual

def Expr.evaluateCheckedWith (inner : CheckedEvaluator) : Expr → Context → Checked Value
  | .literal s, _ => .ok (.ofText s)
  | .number x, _ => .ok (.ofNumber x)
  | .path origin steps, c => do
    match origin, c.item, isSelfStep steps with
    | .context, .atomic a, true => return [.atomic a]
    | _, _, _ =>
      let start ← origin.evaluateCheckedWith inner c
      let ns ← evaluateStepsChecked inner steps c start
      return .ofNodes ns
  | .var name, c => evaluateVariableChecked inner name c
  | .call name args, c =>
    match Callable.ofName? c.scope name with
    | none => .error (.error (.unknownFunction name))
    | some f => do
      let vs ← evaluateAllChecked inner args c
      f.invokeChecked inner vs c
  | .binary .and left right, c => do
    if (← left.evaluateCheckedWith inner c).truth then
      return .ofBool (← right.evaluateCheckedWith inner c).truth
    else return .ofBool false
  | .binary .or left right, c => do
    if (← left.evaluateCheckedWith inner c).truth then return .ofBool true
    else return .ofBool (← right.evaluateCheckedWith inner c).truth
  | .binary op left right, c => do
    let v ← left.evaluateCheckedWith inner c
    let w ← right.evaluateCheckedWith inner c
    of (op.apply c.document v w)
  | .negate e, c => do
    let v ← e.evaluateCheckedWith inner c
    return .ofNumber (-(← of (v.operand c.document)))
  | .filter base predicates, c => do
    let v ← base.evaluateCheckedWith inner c
    applyPredicatesChecked inner predicates c v
  | .sequence es, c => return (← evaluateAllChecked inner es c).flatten
  | .conditional test yes no, c => do
    if (← test.evaluateCheckedWith inner c).truth then yes.evaluateCheckedWith inner c
    else no.evaluateCheckedWith inner c
  | .quantified q clauses satisfies, c =>
    (evaluateClausesChecked inner q
      (fun c => (satisfies.evaluateCheckedWith inner c).map Value.truth) clauses c).map .ofBool
  | .range first last, c => do
    let a ← of (rangeBound? c.document (← first.evaluateCheckedWith inner c))
    let b ← of (rangeBound? c.document (← last.evaluateCheckedWith inner c))
    rangeChecked a b

def Origin.evaluateCheckedWith (inner : CheckedEvaluator) : Origin → Context → Checked (List Node)
  | .context, c => of (c.node.map fun n => [n])
  | .root, c => .ok [c.root]
  | .value e, c => do of (← e.evaluateCheckedWith inner c).nodes

def evaluateAllChecked (inner : CheckedEvaluator) : List Expr → Context → Checked (List Value)
  | [], _ => .ok []
  | e :: es, c => do
    let v ← e.evaluateCheckedWith inner c
    let vs ← evaluateAllChecked inner es c
    return v :: vs

def applyPredicatesChecked (inner : CheckedEvaluator) :
    List Expr → Context → Value → Checked Value
  | [], _, v => .ok v
  | p :: ps, c, v => do
    let kept ← filterItemsChecked (p.evaluateCheckedWith inner) c v.length 0 v []
    applyPredicatesChecked inner ps c kept

def evaluateStepsChecked (inner : CheckedEvaluator) :
    List Step → Context → List Node → Checked (List Node)
  | [], _, ns => .ok ns
  | s :: ss, c, ns => do
    let found ← s.evaluateCheckedWith inner c ns
    evaluateStepsChecked inner ss c found

def Step.evaluateCheckedWith (inner : CheckedEvaluator) :
    Step → Context → List Node → Checked (List Node)
  | ⟨axis, test, predicates⟩, c, ns => do
    let m ← of (test.resolve c.namespaces)
    let found ← ns.foldlM (fun (row : Node.Row) n => do
      let candidates ← c.document.alongChecked n axis
      let kept ← applyPredicatesChecked inner predicates c
        (.ofNodes (candidates.filter (m.accepts c.document axis.principal)))
      return row.add (kept.filterMap Item.node?)) []
    return found.nodes

def evaluateClausesChecked (inner : CheckedEvaluator) (q : Quantifier)
    (body : Context → Checked Bool) : List Clause → Context → Checked Bool
  | [], c => body c
  | clause :: rest, c => do
    let v ← clause.domainCheckedWith inner c
    quantifyChecked q (fun i =>
      evaluateClausesChecked inner q body rest (c.bindItem clause.name i)) v

def Clause.domainCheckedWith (inner : CheckedEvaluator) : Clause → Context → Checked Value
  | ⟨_, domain⟩, c => domain.evaluateCheckedWith inner c

end

/-! ## levels of definitions -/

def Expr.evaluateCheckedWithin : Nat → CheckedEvaluator
  | 0 => Expr.evaluateCheckedWith fun _ c => .error (.error (.depthExceeded c.maxDepth))
  | n + 1 => Expr.evaluateCheckedWith (Expr.evaluateCheckedWithin n)

/-- the value of an expression, or the panic that stops its evaluation -/
def Expr.evaluateChecked (e : Expr) (c : Context) : Checked Value :=
  Expr.evaluateCheckedWithin c.remaining e c

/-! ## without panics -/

theorem Context.descendChecked_eq (c : Context) : c.descendChecked = of c.descend := by
  unfold descendChecked descend
  by_cases h : c.depth < c.maxDepth
  · rw [if_neg (Nat.not_le.mpr h), if_pos h, addCount_of_le h]
    rfl
  · rw [if_pos (Nat.not_lt.mp h), if_neg h]
    rfl

/-- so many items from the index on are still to be looked at -/
theorem filterItemsChecked_eq {test : Context → Checked Value}
    {test' : Context → Except EvalError Value} (h : ∀ c, test c = of (test' c)) (c : Context)
    {size i : Nat} {v : Value} (hv : i + v.length = size) (kept : Value) :
    filterItemsChecked test c size i v kept = of (filterItems test' c size (i + 1) v kept) := by
  induction v generalizing i kept with
  | nil => rfl
  | cons item v ih =>
    rw [List.length_cons] at hv
    have hplace : i + 1 ≤ size := by omega
    have hrest : i + 1 + v.length = size := by omega
    rw [filterItemsChecked, filterItems, addCount_of_le hplace]
    exact bind_eq_of (h _) fun w _ => ih hrest _

theorem quantifyChecked_eq (q : Quantifier) {test : Item → Checked Bool}
    {test' : Item → Except EvalError Bool} (h : ∀ i, test i = of (test' i)) (v : Value) :
    quantifyChecked q test v = of (quantify q test' v) := by
  induction v with
  | nil => rfl
  | cons i v ih =>
    refine bind_eq_of (h i) fun holds _ => ?_
    show (if holds == (q == .some) then _ else _) = of (if _ then _ else _)
    cases holds == (q == .some) with
    | true => rfl
    | false => exact ih

/-- a bound of a range is a whole number, one of those that doubles hold all -/
theorem rangeBound?_eq_some_iff {d : Document} {v : Value} {n : Int} :
    rangeBound? d v = .ok (some n) ↔ ∃ a, v.single? d = .ok (some a) ∧
      Number.toInt? a.asNumber = some n ∧ n.natAbs ≤ maxExact := by
  unfold rangeBound?
  rw [bind_eq_ok_iff]
  constructor
  · rintro ⟨literal, hliteral, h⟩
    cases literal with
    | none => cases h
    | some a =>
      refine ⟨a, hliteral, ?_⟩
      dsimp only at h
      split at h
      · next k hk =>
        split at h
        · next hle =>
          cases h
          exact ⟨hk, hle⟩
        · cases h
      · cases h
  · rintro ⟨a, ha, hn, hle⟩
    refine ⟨some a, ha, ?_⟩
    dsimp only
    rw [hn]
    exact if_pos hle

theorem natAbs_le_of_rangeBound? {d : Document} {v : Value} {n : Int}
    (h : rangeBound? d v = .ok (some n)) : n.natAbs ≤ maxExact :=
  have ⟨_, _, _, hle⟩ := rangeBound?_eq_some_iff.mp h
  hle

/-- the difference of two bounds fits a word by far -/
theorem subtract_of_natAbs_le {first last : Int} (hfirst : first.natAbs ≤ maxExact)
    (hlast : last.natAbs ≤ maxExact) : subtract last first = .ok (last - first) := by
  have hexact : maxExact = 9007199254740992 := rfl
  have hword : Int.pow 2 63 = 9223372036854775808 := rfl
  refine if_pos ⟨?_, ?_⟩ <;> omega

theorem rangeChecked_eq {first last : Option Int} (hfirst : ∀ n ∈ first, n.natAbs ≤ maxExact)
    (hlast : ∀ n ∈ last, n.natAbs ≤ maxExact) :
    rangeChecked first last = of (rangeValue first last) := by
  cases first with
  | none => rfl
  | some first =>
    cases last with
    | none => rfl
    | some last =>
      rw [rangeChecked, rangeValue,
        subtract_of_natAbs_le (hfirst first rfl) (hlast last rfl)]
      show (if _ then _ else _) = _
      by_cases h : last - first ≥ maxRangeLength
      · rw [if_pos h, if_pos h]
        rfl
      · rw [if_neg h, if_neg h]
        rfl

section
variable {inner : CheckedEvaluator} {inner' : Evaluator}

theorem Expr.evaluateCheckedWith_path (origin : Origin) (steps : List Step) (c : Context) :
    (Expr.path origin steps).evaluateCheckedWith inner c =
      match origin, c.item, isSelfStep steps with
      | .context, .atomic a, true => .ok [.atomic a]
      | _, _, _ => do
        let start ← origin.evaluateCheckedWith inner c
        let ns ← evaluateStepsChecked inner steps c start
        return .ofNodes ns := by
  rfl

theorem Expr.evaluateCheckedWith_path_eq {origin : Origin} {steps : List Step} {c : Context}
    (horigin : origin.evaluateCheckedWith inner c = of (origin.evaluateWith inner' c))
    (hsteps : ∀ ns, evaluateStepsChecked inner steps c ns = of (evaluateSteps inner' steps c ns)) :
    (Expr.path origin steps).evaluateCheckedWith inner c =
      of ((Expr.path origin steps).evaluateWith inner' c) := by
  have hnodes := bind_eq_of horigin fun start _ =>
    bind_eq_of (g := fun ns => .ok (Value.ofNodes ns)) (hsteps start) fun ns _ => rfl
  rw [Expr.evaluateCheckedWith_path, Expr.evaluateWith_path]
  cases origin with
  | root | value => exact hnodes
  | context =>
    cases c.item with
    | node => exact hnodes
    | atomic a =>
      cases isSelfStep steps with
      | true => rfl
      | false => exact hnodes

theorem Expr.evaluateCheckedWith_binary_eq {op : BinaryOp} {left right : Expr} {c : Context}
    (hl : left.evaluateCheckedWith inner c = of (left.evaluateWith inner' c))
    (hr : right.evaluateCheckedWith inner c = of (right.evaluateWith inner' c)) :
    (Expr.binary op left right).evaluateCheckedWith inner c =
      of ((Expr.binary op left right).evaluateWith inner' c) := by
  cases op with
  | and =>
    rw [Expr.evaluateCheckedWith, Expr.evaluateWith]
    refine bind_eq_of hl fun v _ => ?_
    cases v.truth with
    | true => exact bind_eq_of hr fun w _ => rfl
    | false => rfl
  | or =>
    rw [Expr.evaluateCheckedWith, Expr.evaluateWith]
    refine bind_eq_of hl fun v _ => ?_
    cases v.truth with
    | true => rfl
    | false => exact bind_eq_of hr fun w _ => rfl
  | _ =>
    rw [Expr.evaluateCheckedWith, Expr.evaluateWith]
    · exact bind_eq_of hl fun v _ => bind_eq_of hr fun w _ => rfl
    all_goals nofun

variable (h : ∀ e c, inner e c = of (inner' e c))
include h

theorem runBodyChecked_eq (c : Context) (outer : Scope) (frame : Frame) (result : Value)
    (body : List Statement) :
    runBodyChecked inner c outer frame result body =
      of (runBody inner' c outer frame result body) := by
  induction body generalizing frame result with
  | nil => rfl
  | cons s body ih =>
    cases s with
    | bind name e => exact bind_eq_of (h _ _) fun v _ => ih _ _
    | yield e => exact bind_eq_of (h _ _) fun v _ => ih _ _

theorem FunctionDecl.callChecked_eq (f : FunctionDecl) (args : List Value) (c : Context) :
    f.callChecked inner args c = of (f.call inner' args c) := by
  unfold callChecked call
  cases args.length != f.arity with
  | true => rfl
  | false => exact bind_eq_of c.descendChecked_eq fun d _ => runBodyChecked_eq h d _ _ _ _

theorem Callable.invokeChecked_eq (f : Callable) (args : List Value) (c : Context) :
    f.invokeChecked inner args c = of (f.invoke inner' args c) := by
  cases f with
  | declared f => exact f.callChecked_eq h args c
  | builtin b => exact b.invokeChecked_eq args c

theorem evaluateVariableChecked_eq (name : String) (c : Context) :
    evaluateVariableChecked inner name c = of (evaluateVariable inner' name c) := by
  unfold evaluateVariableChecked evaluateVariable
  cases c.scope.lookup name with
  | none => rfl
  | some found =>
    cases found with
    | value v => rfl
    | definition e env => exact bind_eq_of c.descendChecked_eq fun d _ => h _ _

mutual

theorem Expr.evaluateCheckedWith_eq (e : Expr) (c : Context) :
    e.evaluateCheckedWith inner c = of (e.evaluateWith inner' c) := by
  match e with
  | .literal _ | .number _ => rfl
  | .path origin steps =>
    exact Expr.evaluateCheckedWith_path_eq (origin.evaluateCheckedWith_eq c)
      (evaluateStepsChecked_eq steps c)
  | .var name => exact evaluateVariableChecked_eq h name c
  | .call name args =>
    rw [Expr.evaluateCheckedWith, Expr.evaluateWith]
    cases Callable.ofName? c.scope name with
    | none => rfl
    | some f => exact bind_eq_of (evaluateAllChecked_eq args c) fun vs _ => f.invokeChecked_eq h vs c
  | .binary op left right =>
    exact Expr.evaluateCheckedWith_binary_eq (left.evaluateCheckedWith_eq c)
      (right.evaluateCheckedWith_eq c)
  | .negate operand =>
    rw [Expr.evaluateCheckedWith, Expr.evaluateWith]
    exact bind_eq_of (operand.evaluateCheckedWith_eq c) fun v _ => bind_eq_of rfl fun x _ => rfl
  | .filter base predicates =>
    rw [Expr.evaluateCheckedWith, Expr.evaluateWith]
    exact bind_eq_of (base.evaluateCheckedWith_eq c) fun v _ =>
      applyPredicatesChecked_eq predicates c v
  | .sequence items =>
    rw [Expr.evaluateCheckedWith, Expr.evaluateWith]
    exact bind_eq_of (evaluateAllChecked_eq items c) fun vs _ => rfl
  | .conditional test yes no =>
    rw [Expr.evaluateCheckedWith, Expr.evaluateWith]
    refine bind_eq_of (test.evaluateCheckedWith_eq c) fun v _ => ?_
    cases v.truth with
    | true => exact yes.evaluateCheckedWith_eq c
    | false => exact no.evaluateCheckedWith_eq c
  | .quantified q clauses satisfies =>
    rw [Expr.evaluateCheckedWith, Expr.evaluateWith, of_map]
    have hbody (d : Context) : (satisfies.evaluateCheckedWith inner d).map Value.truth =
        of ((satisfies.evaluateWith inner' d).map Value.truth) := by
      rw [satisfies.evaluateCheckedWith_eq d, of_map]
    rw [evaluateClausesChecked_eq q clauses hbody c]
  | .range first last =>
    rw [Expr.evaluateCheckedWith, Expr.evaluateWith]
    exact bind_eq_of (first.evaluateCheckedWith_eq c) fun v _ => bind_eq_of rfl fun a ha =>
      bind_eq_of (last.evaluateCheckedWith_eq c) fun w _ => bind_eq_of rfl fun b hb =>
        rangeChecked_eq (fun n hn => natAbs_le_of_rangeBound? (hn ▸ ha))
          fun n hn => natAbs_le_of_rangeBound? (hn ▸ hb)

theorem Origin.evaluateCheckedWith_eq (o : Origin) (c : Context) :
    o.evaluateCheckedWith inner c = of (o.evaluateWith inner' c) := by
  match o with
  | .context | .root => rfl
  | .value e =>
    rw [Origin.evaluateCheckedWith, Origin.evaluateWith]
    exact bind_eq_of (e.evaluateCheckedWith_eq c) fun v _ => rfl

theorem evaluateAllChecked_eq (es : List Expr) (c : Context) :
    evaluateAllChecked inner es c = of (evaluateAll inner' es c) := by
  match es with
  | [] => rfl
  | e :: es =>
    exact bind_eq_of (e.evaluateCheckedWith_eq c) fun v _ =>
      bind_eq_of (evaluateAllChecked_eq es c) fun vs _ => rfl

theorem applyPredicatesChecked_eq (ps : List Expr) (c : Context) (v : Value) :
    applyPredicatesChecked inner ps c v = of (applyPredicates inner' ps c v) := by
  match ps with
  | [] => rfl
  | p :: ps =>
    exact bind_eq_of (filterItemsChecked_eq p.evaluateCheckedWith_eq c (Nat.zero_add _) [])
      fun kept _ => applyPredicatesChecked_eq ps c kept

theorem evaluateStepsChecked_eq (ss : List Step) (c : Context) (ns : List Node) :
    evaluateStepsChecked inner ss c ns = of (evaluateSteps inner' ss c ns) := by
  match ss with
  | [] => rfl
  | s :: ss =>
    exact bind_eq_of (s.evaluateCheckedWith_eq c ns) fun found _ =>
      evaluateStepsChecked_eq ss c found

theorem Step.evaluateCheckedWith_eq (s : Step) (c : Context) (ns : List Node) :
    s.evaluateCheckedWith inner c ns = of (s.evaluateWith inner' c ns) := by
  match s with
  | ⟨axis, test, predicates⟩ =>
    rw [Step.evaluateCheckedWith, Step.evaluateWith]
    refine bind_eq_of rfl fun m _ =>
      bind_eq_of (foldlM_eq_of (fun row n => ?_) ns []) fun found _ => rfl
    rw [Document.alongChecked_eq]
    exact bind_eq_of (applyPredicatesChecked_eq predicates c _) fun kept _ => rfl

theorem evaluateClausesChecked_eq (q : Quantifier) (cs : List Clause)
    {body : Context → Checked Bool} {body' : Context → Except EvalError Bool}
    (hbody : ∀ c, body c = of (body' c)) (c : Context) :
    evaluateClausesChecked inner q body cs c = of (evaluateClauses inner' q body' cs c) := by
  match cs with
  | [] => exact hbody c
  | ⟨name, domain⟩ :: cs =>
    exact bind_eq_of (domain.evaluateCheckedWith_eq c) fun v _ => quantifyChecked_eq q
      (fun i => evaluateClausesChecked_eq q cs hbody (c.bindItem name i)) v

end

end

theorem Expr.evaluateCheckedWithin_eq (n : Nat) (e : Expr) (c : Context) :
    Expr.evaluateCheckedWithin n e c = of (Expr.evaluateWithin n e c) := by
  induction n generalizing e c with
  | zero =>
    have hdeepest (_ : Expr) (c : Context) :
        (.error (.error (.depthExceeded c.maxDepth)) : Checked Value) =
          of (.error (.depthExceeded c.maxDepth)) := rfl
    exact Expr.evaluateCheckedWith_eq hdeepest e c
  | succ n ih => exact Expr.evaluateCheckedWith_eq ih e c

/-- **Evaluation does not panic.** -/
theorem Expr.evaluateChecked_eq (e : Expr) (c : Context) : e.evaluateChecked c = of (e.evaluate c) :=
  Expr.evaluateCheckedWithin_eq c.remaining e c

end Rulebook
