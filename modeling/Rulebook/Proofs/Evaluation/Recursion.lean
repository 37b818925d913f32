import Rulebook.Proofs.Evaluation.Variables
import Rulebook.Proofs.Expr.Parts

/-!
# Recursion of evaluation

The evaluation of an expression is a recursion: it asks for the values of the expressions in it, and
for those of the definitions that it refers to, which may refer to each other and to themselves.

* `Expr.evaluateBy`       one round of it, given how the expressions are evaluated that it asks for;
* `Expr.evaluateFueled`   the whole of it with so many rounds one inside the other, none of them
                          deeper than a limit;
* `Expr.LeadsTo`          what an expression in a context can ask for;
* `Expr.Reaches`          the definitions that an expression can refer to, over others too.

`evaluateFueled_eq_evaluate`: **a number of rounds is enough that only depends on the sizes of the
expression and of the definitions that it reaches and on how many definitions are left**, and without
the last no number is.
-/

set_option autoImplicit false

namespace Rulebook

open scoped List

/-! ## one round -/

section
variable (recur : Evaluator)

def Origin.nodesBy : Origin → Context → Except EvalError (List Node)
  | .context, c => c.node.map fun n => [n]
  | .root, c => .ok [c.root]
  | .value e, c => do (← recur e c).nodes

def applyPredicatesBy (predicates : List Expr) (c : Context) (v : Value) : Except EvalError Value :=
  predicates.foldlM (fun v p => filterItems (recur p) c v.length 1 v []) v

def Step.nodesBy (s : Step) (c : Context) (ns : List Node) : Except EvalError (List Node) := do
  let m ← s.test.resolve c.namespaces
  let found ← ns.foldlM (fun (row : Node.Row) n => do
    let kept ← applyPredicatesBy recur s.predicates c
      (.ofNodes ((c.document.along n s.axis).filter (m.accepts c.document s.axis.principal)))
    return row.add (kept.filterMap Item.node?)) []
  return found.nodes

def holdsBy (q : Quantifier) (satisfies : Expr) : List Clause → Context → Except EvalError Bool
  | [], c => (recur satisfies c).map Value.truth
  | clause :: rest, c => do
    let v ← recur clause.domain c
    quantify q (fun i => holdsBy q satisfies rest (c.bindItem clause.name i)) v

/-- the value of an expression from the values of those directly in it and of definitions -/
def Expr.evaluateBy : Expr → Context → Except EvalError Value
  | .literal s, _ => .ok (.ofText s)
  | .number x, _ => .ok (.ofNumber x)
  | .path origin steps, c => do
    match origin, c.item, isSelfStep steps with
    | .context, .atomic a, true => return [.atomic a]
    | _, _, _ =>
      let start ← origin.nodesBy recur c
      let ns ← steps.foldlM (fun ns s => s.nodesBy recur c ns) start
      return .ofNodes ns
  | .var name, c => evaluateVariable recur name c
  | .call name args, c =>
    match Callable.ofName? c.scope name with
    | none => .error (.unknownFunction name)
    | some f => do
      let vs ← args.mapM fun e => recur e c
      f.invoke recur vs c
  | .binary .and left right, c => do
    if (← recur left c).truth then return .ofBool (← recur right c).truth
    else return .ofBool false
  | .binary .or left right, c => do
    if (← recur left c).truth then return .ofBool true
    else return .ofBool (← recur right c).truth
  | .binary op left right, c => do
    let v ← recur left c
    let w ← recur right c
    op.apply c.document v w
  | .negate e, c => do
    let v ← recur e c
    return .ofNumber (-(← v.operand c.document))
  | .filter base predicates, c => do
    let v ← recur base c
    applyPredicatesBy recur predicates c v
  | .sequence es, c => return (← es.mapM fun e => recur e c).flatten
  | .conditional test yes no, c => do
    if (← recur test c).truth then recur yes c else recur no c
  | .quantified q clauses satisfies, c => (holdsBy recur q satisfies clauses c).map .ofBool
  | .range first last, c => do
    let a ← rangeBound? c.document (← recur first c)
    let b ← rangeBound? c.document (← recur last c)
    rangeValue a b

end

/-- evaluation in rounds, at most `fuel` of them one inside the other; `stop` is what a round says
for which none is left, and one deeper than the limit -/
def Expr.evaluateFueled (stop : EvalError) (limit : Nat) :
    Nat → Expr → Context → Except EvalError Value
  | 0, _, _ => .error stop
  | fuel + 1, e, c =>
    if c.depth ≤ limit then e.evaluateBy (Expr.evaluateFueled stop limit fuel) c else .error stop

/-! ## what a round asks for -/

/-- as many definitions lead to the one as to the other, and both see the same ones -/
structure Context.SameLevel (c d : Context) : Prop where
  depth : d.depth = c.depth
  maxDepth : d.maxDepth = c.maxDepth
  environment : d.scope.environment = c.scope.environment

namespace Context.SameLevel

variable {c d : Context}

theorem refl (c : Context) : c.SameLevel c := ⟨rfl, rfl, rfl⟩

theorem focus (h : c.SameLevel d) (i : Item) (position size : Nat) :
    c.SameLevel (d.focus i position size) :=
  ⟨h.depth, h.maxDepth, h.environment⟩

theorem bindItem (h : c.SameLevel d) (name : String) (i : Item) :
    c.SameLevel (d.bindItem name i) :=
  ⟨h.depth, h.maxDepth, h.environment⟩

theorem remaining_eq (h : c.SameLevel d) : d.remaining = c.remaining := by
  unfold remaining
  rw [h.depth, h.maxDepth]

end Context.SameLevel

/-- the evaluation of the first expression in the first context can ask for the second ones -/
inductive Expr.LeadsTo : Expr → Context → Expr → Context → Prop
  | child {e x : Expr} {c d : Context} (hx : x ∈ e.children) (hd : c.SameLevel d) : LeadsTo e c x d
  | definition {name : String} {c deeper : Context} {definition : Compiled} {env : Environment}
    (hdefinition : c.scope.environment.definition? name = some (definition, env))
    (hdeeper : c.descend = .ok deeper) :
    LeadsTo (.var name) c definition.expr (deeper.withScope (.ofEnvironment env))
  | statement {name : String} {args : List Expr} {c deeper : Context} {f : FunctionDecl}
    {s : Statement} {frame : Frame} (hf : c.scope.function? name = some f) (hs : s ∈ f.body)
    (hdeeper : c.descend = .ok deeper) :
    LeadsTo (.call name args) c s.value.expr (deeper.withScope (c.scope.enter frame))

/-- none of it is deeper than the limit on definitions, unless the first context is -/
theorem Expr.LeadsTo.depth_le {e x : Expr} {c d : Context} (h : e.LeadsTo c x d) :
    max d.depth d.maxDepth ≤ max c.depth c.maxDepth := by
  cases h with
  | child _ hd => rw [hd.depth, hd.maxDepth]
  | definition _ hdeeper | statement _ _ hdeeper =>
    obtain ⟨hlt, rfl⟩ := Context.descend_eq_ok_iff.mp hdeeper
    show max (c.depth + 1) c.maxDepth ≤ _
    omega

/-! ## a round of the evaluation -/

section
variable {recur inner : Evaluator} {c : Context}

theorem applyPredicatesBy_eq (ps : List Expr)
    (h : ∀ p ∈ ps, ∀ d, c.SameLevel d → recur p d = p.evaluateWith inner d) (v : Value) :
    applyPredicatesBy recur ps c v = applyPredicates inner ps c v := by
  induction ps generalizing v with
  | nil => rfl
  | cons p ps ih =>
    obtain ⟨hp, hps⟩ := List.forall_mem_cons.mp h
    have hkept : filterItems (recur p) c v.length 1 v [] =
        filterItems (p.evaluateWith inner) c v.length 1 v [] :=
      (filterItems_same (fun i position =>
        .inr (hp _ ((Context.SameLevel.refl c).focus i position _))) v 1 []).eq_of_never
    rw [applyPredicates, ← hkept]
    exact congrArg _ (funext (ih hps))

theorem Step.nodesBy_eq (s : Step)
    (h : ∀ p ∈ s.predicates, ∀ d, c.SameLevel d → recur p d = p.evaluateWith inner d)
    (ns : List Node) : s.nodesBy recur c ns = s.evaluateWith inner c ns := by
  obtain ⟨axis, test, predicates⟩ := s
  unfold nodesBy evaluateWith
  simp only [applyPredicatesBy_eq predicates h]

theorem foldlM_nodesBy_eq (ss : List Step)
    (h : ∀ s ∈ ss, ∀ p ∈ s.predicates, ∀ d, c.SameLevel d → recur p d = p.evaluateWith inner d)
    (ns : List Node) :
    ss.foldlM (fun ns s => s.nodesBy recur c ns) ns = evaluateSteps inner ss c ns := by
  induction ss generalizing ns with
  | nil => rfl
  | cons s ss ih =>
    obtain ⟨hs, hss⟩ := List.forall_mem_cons.mp h
    rw [List.foldlM_cons, evaluateSteps, s.nodesBy_eq hs]
    exact congrArg _ (funext (ih hss))

theorem Origin.nodesBy_eq {o : Origin}
    (h : ∀ x ∈ o.children, recur x c = x.evaluateWith inner c) :
    o.nodesBy recur c = o.evaluateWith inner c := by
  cases o with
  | context | root => rfl
  | value e => rw [nodesBy, evaluateWith, h e (List.mem_singleton_self e)]

theorem mapM_recur_eq (es : List Expr) (h : ∀ x ∈ es, recur x c = x.evaluateWith inner c) :
    es.mapM (fun e => recur e c) = evaluateAll inner es c := by
  induction es with
  | nil => rfl
  | cons e es ih =>
    obtain ⟨he, hes⟩ := List.forall_mem_cons.mp h
    rw [List.mapM_cons, evaluateAll, he, ih hes]

theorem holdsBy_eq {q : Quantifier} {satisfies : Expr} (cs : List Clause)
    (hs : ∀ d, c.SameLevel d → recur satisfies d = satisfies.evaluateWith inner d)
    (hcs : ∀ clause ∈ cs, ∀ d, c.SameLevel d →
      recur clause.domain d = clause.domain.evaluateWith inner d) {d : Context}
    (hd : c.SameLevel d) :
    holdsBy recur q satisfies cs d = evaluateClauses inner q
      (fun d => (satisfies.evaluateWith inner d).map Value.truth) cs d := by
  induction cs generalizing d with
  | nil => rw [holdsBy, evaluateClauses, hs d hd]
  | cons clause cs ih =>
    obtain ⟨hclause, hcs⟩ := List.forall_mem_cons.mp hcs
    have hrest := fun i => ih hcs (hd.bindItem clause.name i)
    obtain ⟨name, domain⟩ := clause
    rw [holdsBy, evaluateClauses, Clause.domainWith, hclause d hd]
    exact congrArg _ (funext fun v => congrArg (quantify q · v) (funext hrest))

end

/-- one definition deeper than a context is one context -/
theorem sameDescent_self (c : Context) :
    SameDescent (fun _ => False) (fun d d' => c.descend = .ok d ∧ d = d') c c := by
  cases hdeeper : c.descend with
  | error x => exact .inl ⟨x, hdeeper, .inr hdeeper⟩
  | ok d => exact .inr ⟨d, d, hdeeper, hdeeper, rfl, rfl⟩

section
variable {recur : Evaluator} {e : Expr} {c : Context}
  (h : ∀ x d, e.LeadsTo c x d → recur x d = x.evaluate d)
include h

theorem recur_child {x : Expr} (hx : x ∈ e.children) {d : Context} (hd : c.SameLevel d) :
    recur x d = x.evaluateWith (Expr.definitionsWithin c.remaining) d := by
  rw [h x d (.child hx hd), Expr.evaluate_eq, hd.remaining_eq]

/-- a round gives the value of an expression if it is given the values that it asks for -/
theorem Expr.evaluateBy_eq_evaluate : e.evaluateBy recur c = e.evaluate c := by
  rw [Expr.evaluate_eq]
  have hself : c.SameLevel c := .refl c
  cases e with
  | literal _ | number _ => rfl
  | path origin steps =>
    have horigin := Origin.nodesBy_eq fun x hx =>
      recur_child h (List.mem_append_left _ hx) hself
    have hsteps := foldlM_nodesBy_eq steps fun s hs p hp d hd =>
      recur_child h (List.mem_append_right _ (List.mem_flatMap.mpr ⟨s, hs, hp⟩)) hd
    rw [evaluateWith_path]
    simp only [← horigin, ← hsteps]
    rfl
  | var name =>
    refine (evaluateVariable_same rfl (sameDescent_self c) ?_).eq_of_never
    rintro definition env hdefinition d _ ⟨hd, rfl⟩
    refine .inr ?_
    rw [h _ _ (.definition hdefinition hd), definitionsWithin_of_descend hd]
  | call name args =>
    rw [evaluateBy, evaluateWith, mapM_recur_eq args fun x hx => recur_child h hx hself]
    cases hf : Callable.ofName? c.scope name with
    | none => rfl
    | some f =>
      dsimp only
      refine congrArg _ (funext fun vs => ?_)
      cases f with
      | builtin b => rfl
      | declared f =>
        refine (f.call_same vs rfl (sameDescent_self c) ?_).eq_of_never
        rintro s hs frame d _ ⟨hd, rfl⟩
        refine .inr ?_
        rw [h _ _ (.statement (Callable.function?_of_declared hf) hs hd),
          definitionsWithin_of_descend hd]
  | binary op left right =>
    have hleft := recur_child h List.mem_cons_self hself
    have hright := recur_child h (List.mem_cons_of_mem _ List.mem_cons_self) hself
    cases op <;> simp only [evaluateBy, evaluateWith, hleft, hright]
  | negate operand =>
    rw [evaluateBy, evaluateWith, recur_child h List.mem_cons_self hself]
  | filter base predicates =>
    have hpredicates := applyPredicatesBy_eq predicates fun p hp d hd =>
      recur_child h (List.mem_cons_of_mem _ hp) hd
    rw [evaluateBy, evaluateWith, recur_child h List.mem_cons_self hself]
    exact congrArg _ (funext hpredicates)
  | sequence items =>
    rw [evaluateBy, evaluateWith, mapM_recur_eq items fun x hx => recur_child h hx hself]
  | conditional test yes no =>
    have hyes := recur_child h (List.mem_cons_of_mem _ List.mem_cons_self) hself
    have hno := recur_child h
      (List.mem_cons_of_mem _ (List.mem_cons_of_mem _ List.mem_cons_self)) hself
    rw [evaluateBy, evaluateWith, recur_child h List.mem_cons_self hself, hyes, hno]
  | quantified q clauses satisfies =>
    rw [evaluateBy, evaluateWith, holdsBy_eq clauses
      (fun d hd => recur_child h List.mem_cons_self hd) (fun clause hclause d hd =>
        recur_child h (List.mem_cons_of_mem _ (List.mem_map_of_mem hclause)) hd) hself]
  | range first last =>
    have hlast := recur_child h (List.mem_cons_of_mem _ List.mem_cons_self) hself
    rw [evaluateBy, evaluateWith, recur_child h List.mem_cons_self hself, hlast]

end

/-- evaluation is what its rounds make of itself -/
theorem Expr.evaluate_eq_evaluateBy (e : Expr) (c : Context) :
    e.evaluate c = e.evaluateBy Expr.evaluate c :=
  (Expr.evaluateBy_eq_evaluate fun _ _ _ => rfl).symm

/-! ## the definitions that an expression reaches -/

/-- a definition that an expression refers to, with the declarations that it sees itself, and so on
from there -/
inductive Expr.Reaches : Environment → Expr → Environment → Expr → Prop
  | definition {env env' : Environment} {e : Expr} {name : String} {definition : Compiled}
    (hname : .var name ∈ e.parts true)
    (hdefinition : env.definition? name = some (definition, env')) :
    Reaches env e env' definition.expr
  | statement {env : Environment} {e : Expr} {name : String} {args : List Expr} {f : FunctionDecl}
    {s : Statement} (hname : .call name args ∈ e.parts true)
    (hf : env.function? name = some f) (hs : s ∈ f.body) : Reaches env e env s.value.expr
  | trans {env env₁ env₂ : Environment} {e e₁ e₂ : Expr} (h₁ : Reaches env e env₁ e₁)
    (h₂ : Reaches env₁ e₁ env₂ e₂) : Reaches env e env₂ e₂

theorem Expr.Reaches.of_mem_children {env env' : Environment} {e x y : Expr}
    (h : x.Reaches env env' y) (hx : x ∈ e.children) : e.Reaches env env' y := by
  induction h with
  | definition hname hdefinition =>
    exact .definition (Expr.parts_subset_of_mem_children hx hname) hdefinition
  | statement hname hf hs => exact .statement (Expr.parts_subset_of_mem_children hx hname) hf hs
  | trans _ h₂ ih₁ => exact .trans (ih₁ hx) h₂

theorem Table.mem_entries_of_get? {α : Type} {t : Table α} {name : String} {a : α}
    (h : t.get? name = some a) : (name, a) ∈ t.entries := by
  obtain ⟨before, after, hentries, -⟩ := List.lookup_eq_some_iff.mp h
  rw [hentries]
  exact List.mem_append_right _ List.mem_cons_self

namespace Environment

variable {env env' : Environment} {e x : Expr} {size : Nat}

/-- no definition that the expression reaches is larger -/
def Bounds (env : Environment) (e : Expr) (size : Nat) : Prop :=
  ∀ env' x, Expr.Reaches env e env' x → x.size ≤ size

theorem Bounds.of_mem_children (h : env.Bounds e size) (hx : x ∈ e.children) :
    env.Bounds x size :=
  fun env' y hy => h env' y (hy.of_mem_children hx)

theorem Bounds.of_reaches (h : env.Bounds e size) (hx : Expr.Reaches env e env' x) :
    env'.Bounds x size :=
  fun env' y hy => h env' y (hx.trans hy)

/-- what is declared on the levels of an environment -/
def declared (env : Environment) : List Expr :=
  env.flatMap fun d => d.definitions.entries.map (·.2.expr) ++
    d.functions.entries.flatMap fun f => f.2.body.map (·.value.expr)

theorem of_reaches (h : Expr.Reaches env e env' x) : env' <:+ env ∧ x ∈ env.declared := by
  induction h with
  | definition _ hdefinition =>
    obtain ⟨hsuffix, d, hd, he⟩ := of_definition? hdefinition
    refine ⟨hsuffix, List.mem_flatMap.mpr ⟨d, hsuffix.subset hd, List.mem_append_left _ ?_⟩⟩
    exact List.mem_map_of_mem (Table.mem_entries_of_get? he)
  | statement _ hf hs =>
    obtain ⟨d, hd, hf⟩ := List.exists_of_findSome?_eq_some hf
    refine ⟨List.suffix_refl _, List.mem_flatMap.mpr ⟨d, hd, List.mem_append_right _ ?_⟩⟩
    exact List.mem_flatMap.mpr ⟨_, Table.mem_entries_of_get? hf, List.mem_map_of_mem hs⟩
  | trans _ _ ih₁ ih₂ =>
    exact ⟨ih₂.1.trans ih₁.1, (ih₁.1.sublist.flatMap _).subset ih₂.2⟩

theorem exists_bounds (env : Environment) (e : Expr) : ∃ size, env.Bounds e size :=
  ⟨(env.declared.map Expr.size).max?.getD 0, fun _ _ h =>
    List.le_max?_getD_of_mem (List.mem_map_of_mem (of_reaches h).2)⟩

end Environment

/-! ## enough rounds -/

section
variable {e x : Expr} {c d : Context} {size : Nat} (h : e.LeadsTo c x d)
  (hsize : c.scope.environment.Bounds e size)
include h hsize

theorem Expr.LeadsTo.bounds : d.scope.environment.Bounds x size := by
  cases h with
  | child hx hd =>
    rw [hd.environment]
    exact hsize.of_mem_children hx
  | definition hdefinition _ =>
    exact hsize.of_reaches (.definition (Expr.mem_parts_self _ _) hdefinition)
  | statement hf hs _ => exact hsize.of_reaches (.statement (Expr.mem_parts_self _ _) hf hs)

/-- a definition costs one of those that are left, everything else part of the expression -/
theorem Expr.LeadsTo.cost_lt :
    x.size + d.remaining * size < e.size + c.remaining * size := by
  have hpos := e.size_pos
  cases h with
  | child hx hd =>
    rw [hd.remaining_eq]
    exact Nat.add_lt_add_right (Expr.size_lt_of_mem_children hx) _
  | definition hdefinition hdeeper =>
    have hx := hsize _ _ (.definition (Expr.mem_parts_self _ _) hdefinition)
    rw [Context.remaining_of_descend hdeeper, Nat.succ_mul, Context.remaining_withScope]
    omega
  | statement hf hs hdeeper =>
    have hx := hsize _ _ (.statement (Expr.mem_parts_self _ _) hf hs)
    rw [Context.remaining_of_descend hdeeper, Nat.succ_mul, Context.remaining_withScope]
    omega

end

/-- enough rounds for the expression, and for one definition as often as definitions are left -/
theorem evaluateFueled_of_bounds (stop : EvalError) {limit size fuel : Nat} {e : Expr}
    {c : Context} (hsize : c.scope.environment.Bounds e size)
    (hfuel : e.size + c.remaining * size ≤ fuel) (hlimit : max c.depth c.maxDepth ≤ limit) :
    Expr.evaluateFueled stop limit fuel e c = e.evaluate c := by
  -- what a round asks for costs less, so one round less is enough for it
  induction fuel generalizing e c with
  | zero =>
    have hpos := e.size_pos
    omega
  | succ fuel ih =>
    rw [Expr.evaluateFueled, if_pos (by omega)]
    refine Expr.evaluateBy_eq_evaluate fun x d h => ?_
    have hcost := h.cost_lt hsize
    exact ih (h.bounds hsize) (by omega) (h.depth_le.trans hlimit)

/-- a variable that is its own definition takes a round for every definition that is left -/
theorem evaluateFueled_selfReference (stop : EvalError) (limit : Nat) {d : Declarations}
    {outer : Environment} {name : String} {definition : Compiled}
    (hname : d.definitions.get? name = some definition) (hself : definition.expr = .var name)
    {fuel : Nat} {c : Context} (hc : c.scope = .ofEnvironment (d :: outer))
    (hfuel : fuel ≤ c.remaining) :
    Expr.evaluateFueled stop limit fuel (.var name) c = .error stop := by
  induction fuel generalizing c with
  | zero => rfl
  | succ fuel ih =>
    rw [Expr.evaluateFueled]
    split
    · have hlt : c.depth < c.maxDepth := by
        unfold Context.remaining at hfuel
        omega
      have hdeeper : c.descend = .ok { c with depth := c.depth + 1 } :=
        Context.descend_eq_ok_iff.mpr ⟨hlt, rfl⟩
      rw [Expr.evaluateBy, evaluateVariable_of_local hname _ hc, hdeeper, hself]
      have hremaining := Context.remaining_of_descend hdeeper
      have hrest : fuel ≤ ({ c with depth := c.depth + 1 } : Context).remaining := by omega
      exact ih hc hrest
    · rfl

/-- a variable that stands for itself -/
def selfReference : Compiled := ⟨"$loop", .xpath1, .full, .var "loop"⟩

/-- **Evaluation ends, and the limit on definitions is what makes it so.**  It is enough to have the
rounds for the expression and, as often as definitions are left, those for the largest definition
that it reaches; none of them is deeper than the limit or, if that is deeper, than the first.  From
the sizes alone no number is enough: there are an expression and declarations such that with a higher
limit any number of rounds is used up. -/
theorem evaluateFueled_eq_evaluate :
    (∀ (e : Expr) (c : Context), ∃ size, c.scope.environment.Bounds e size) ∧
    (∀ (e : Expr) (c : Context) (size fuel : Nat), c.scope.environment.Bounds e size →
      e.size + c.remaining * size ≤ fuel → ∀ stop,
        Expr.evaluateFueled stop (max c.depth c.maxDepth) fuel e c = e.evaluate c) ∧
    ∃ (e : Expr) (c : Context), ∀ (fuel : Nat) (stop : EvalError) (limit : Nat),
      Expr.evaluateFueled stop limit fuel e { c with maxDepth := c.depth + fuel } =
        .error stop := by
  refine ⟨fun e c => c.scope.environment.exists_bounds e,
    fun e c size fuel hsize hfuel stop => evaluateFueled_of_bounds stop hsize hfuel (Nat.le_refl _),
    .var "loop", declaringInvoice "loop" selfReference, fun fuel stop limit => ?_⟩
  exact evaluateFueled_selfReference stop limit (Declarations.get?_single "loop" selfReference) rfl
    rfl (Nat.le_sub_of_add_le' (Nat.le_refl _))

/-- a variable that is one more than itself, with 32 levels of definitions -/
theorem evaluateFueled_eq_evaluate_invoice : ∃ loop e : Compiled,
    compile "$loop + 1" .xpath1 .full = .ok loop ∧ compile "$loop" .xpath1 .full = .ok e ∧
    Environment.Bounds [.single "loop" loop] e.expr 3 ∧
    (e.expr.evaluate { declaringInvoice "loop" loop with maxDepth := 32 }).toOption.isNone ∧
    ∀ stop, Expr.evaluateFueled stop 32 97 e.expr
        { declaringInvoice "loop" loop with maxDepth := 32 } =
      e.expr.evaluate { declaringInvoice "loop" loop with maxDepth := 32 } := by
  have hrun : (compile "$loop + 1" .xpath1 .full).toOption.any (fun loop =>
      (compile "$loop" .xpath1 .full).toOption.any fun e =>
      decide (loop.expr.size = 3) && decide (e.expr.size = 1) &&
      (e.expr.evaluate { declaringInvoice "loop" loop with maxDepth := 32 }).toOption.isNone) =
        true := by
    decide +kernel
  obtain ⟨loop, hloop, hrun⟩ := exists_ok_of_any hrun
  obtain ⟨e, he, hrun⟩ := exists_ok_of_any hrun
  obtain ⟨hsizes, hnone⟩ := Bool.and_eq_true_iff.mp hrun
  obtain ⟨hthree, hone⟩ := Bool.and_eq_true_iff.mp hsizes
  have hbounds : Environment.Bounds [.single "loop" loop] e.expr 3 := by
    intro env x h
    have hx : x ∈ [loop.expr] := (Environment.of_reaches h).2
    obtain rfl := List.mem_singleton.mp hx
    exact (of_decide_eq_true hthree).le
  refine ⟨loop, e, hloop, he, hbounds, hnone, fun stop => ?_⟩
  refine evaluateFueled_eq_evaluate.2.1 e.expr
    { declaringInvoice "loop" loop with maxDepth := 32 } 3 97 hbounds ?_ stop
  rw [of_decide_eq_true hone]
  exact Nat.le_refl 97

end Rulebook
