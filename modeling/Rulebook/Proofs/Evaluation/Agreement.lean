import Rulebook.Eval.Evaluate
import Rulebook.Proofs.Expr.Substitution

/-!
# Evaluations that agree

Two contexts can give an expression the same value without being the same, and so can two ways of
evaluating definitions.

* `SameUnless`         two outcomes are the same, but for errors that are passed over;
* `Agreement`          pairs of contexts, those outside predicates apart from those in them;
* `Agreement.LeafSame` what has to be shown of an expression that looks at its context itself.

`Expr.evaluateWith_substitute_same`: **an expression has the same outcome on both sides if all its
parts do that look at the context themselves**, also where one side has other expressions for its
variables.
-/

set_option autoImplicit false

namespace Rulebook

/-! ## outcomes -/

/-- the outcomes are the same, unless the first is an error that is passed over -/
def SameUnless (passed : EvalError → Prop) {α : Type} (x y : Except EvalError α) : Prop :=
  (∃ e, x = .error e ∧ passed e) ∨ x = y

namespace SameUnless

variable {passed : EvalError → Prop} {α β : Type}

theorem refl (x : Except EvalError α) : SameUnless passed x x := .inr rfl

/-- the second step may use that the first has a value -/
theorem bind_of_ok {x y : Except EvalError α} {f g : α → Except EvalError β}
    (h : SameUnless passed x y) (hfg : ∀ a, x = .ok a → SameUnless passed (f a) (g a)) :
    SameUnless passed (x >>= f) (y >>= g) := by
  rcases h with ⟨e, rfl, he⟩ | rfl
  · exact .inl ⟨e, rfl, he⟩
  · cases x with
    | error e => exact .inr rfl
    | ok a => exact hfg a rfl

theorem bind {x y : Except EvalError α} {f g : α → Except EvalError β}
    (h : SameUnless passed x y) (hfg : ∀ a, SameUnless passed (f a) (g a)) :
    SameUnless passed (x >>= f) (y >>= g) :=
  h.bind_of_ok fun a _ => hfg a

theorem map {x y : Except EvalError α} (h : SameUnless passed x y) (f : α → β) :
    SameUnless passed (x.map f) (y.map f) := by
  rcases h with ⟨e, rfl, he⟩ | rfl
  · exact .inl ⟨e, rfl, he⟩
  · exact .inr rfl

theorem eq_of_never {x y : Except EvalError α} (h : SameUnless (fun _ => False) x y) : x = y := by
  rcases h with ⟨e, -, he⟩ | h
  · exact he.elim
  · exact h

theorem foldlM {f g : β → α → Except EvalError β}
    (h : ∀ b a, SameUnless passed (f b a) (g b a)) (as : List α) (b : β) :
    SameUnless passed (as.foldlM f b) (as.foldlM g b) := by
  induction as generalizing b with
  | nil => exact .refl _
  | cons a as ih =>
    rw [List.foldlM_cons, List.foldlM_cons]
    exact (h b a).bind ih

end SameUnless

section
variable {passed : EvalError → Prop}

theorem filterItems_same {test test' : Context → Except EvalError Value} {c c' : Context}
    {size : Nat}
    (h : ∀ i position, SameUnless passed (test (c.focus i position size))
      (test' (c'.focus i position size)))
    (v : Value) (position : Nat) (kept : Value) :
    SameUnless passed (filterItems test c size position v kept)
      (filterItems test' c' size position v kept) := by
  induction v generalizing position kept with
  | nil => exact .refl _
  | cons i v ih => exact (h i position).bind fun w => ih _ _

theorem quantify_same {q : Quantifier} {test test' : Item → Except EvalError Bool}
    (h : ∀ i, SameUnless passed (test i) (test' i)) (v : Value) :
    SameUnless passed (quantify q test v) (quantify q test' v) := by
  induction v with
  | nil => exact .refl _
  | cons i v ih =>
    refine (h i).bind fun holds => ?_
    show SameUnless passed (if holds == (q == .some) then _ else _) (if _ then _ else _)
    cases holds == (q == .some) with
    | true => exact .refl _
    | false => exact ih

end

/-! ## definitions -/

theorem Context.descend_eq_ok_iff {c deeper : Context} :
    c.descend = .ok deeper ↔ c.depth < c.maxDepth ∧ deeper = { c with depth := c.depth + 1 } := by
  unfold descend
  split
  · next hlt => simp [hlt, eq_comm]
  · next hlt => simp [hlt]

open scoped List in
/-- a definition is that of a level, and sees that level and those around it -/
theorem Environment.of_definition? {env env' : Environment} {name : String} {e : Compiled}
    (h : env.definition? name = some (e, env')) :
    env' <:+ env ∧ ∃ d ∈ env', d.definitions.get? name = some e := by
  induction env with
  | nil => cases h
  | cons d outer ih =>
    rw [definition?] at h
    cases hd : d.definitions.get? name with
    | some found =>
      rw [hd] at h
      cases h
      exact ⟨List.suffix_refl _, d, List.mem_cons_self, hd⟩
    | none =>
      rw [hd] at h
      obtain ⟨hsuffix, hlevel⟩ := ih h
      exact ⟨hsuffix.trans (List.suffix_cons _ _), hlevel⟩

theorem Callable.function?_of_declared {s : Scope} {name : String} {f : FunctionDecl}
    (h : ofName? s name = some (.declared f)) : s.function? name = some f := by
  unfold ofName? at h
  split at h
  · next g hg =>
    cases h
    exact hg
  · obtain ⟨b, -, hb⟩ := Option.map_eq_some_iff.mp h
    cases hb

/-- one definition deeper both contexts lead to related ones, or the first admits none and says so
with an error that is passed over or that the second gives too -/
def SameDescent (passed : EvalError → Prop) (R : Context → Context → Prop) (c c' : Context) : Prop :=
  (∃ e, c.descend = .error e ∧ (passed e ∨ c'.descend = .error e)) ∨
    ∃ d d', c.descend = .ok d ∧ c'.descend = .ok d' ∧ R d d'

section
variable {passed : EvalError → Prop} {R : Context → Context → Prop} {c c' : Context}
  {inner inner' : Evaluator}

theorem SameDescent.bind {α : Type} {f g : Context → Except EvalError α}
    (h : SameDescent passed R c c') (hfg : ∀ d d', R d d' → SameUnless passed (f d) (g d')) :
    SameUnless passed (c.descend >>= f) (c'.descend >>= g) := by
  rcases h with ⟨e, he, hp | he'⟩ | ⟨d, d', hd, hd', hr⟩
  · exact .inl ⟨e, by rw [he]; rfl, hp⟩
  · rw [he, he']
    exact .refl _
  · rw [hd, hd']
    exact hfg d d' hr

/-- a variable has the same outcome if its definition does, where it was declared -/
theorem evaluateVariable_same {name : String} (hs : c.scope = c'.scope)
    (h : SameDescent passed R c c')
    (hinner : ∀ e env, c.scope.environment.definition? name = some (e, env) → ∀ d d', R d d' →
      SameUnless passed (inner e.expr (d.withScope (.ofEnvironment env)))
        (inner' e.expr (d'.withScope (.ofEnvironment env)))) :
    SameUnless passed (evaluateVariable inner name c) (evaluateVariable inner' name c') := by
  unfold evaluateVariable
  rw [← hs]
  unfold Scope.lookup
  cases c.scope.value? name with
  | some v => exact .refl _
  | none =>
    cases hdef : c.scope.environment.definition? name with
    | none => exact .refl _
    | some found => exact h.bind (hinner found.1 found.2 hdef)

theorem runBody_same {outer : Scope} (body : List Statement)
    (hinner : ∀ s ∈ body, ∀ frame,
      SameUnless passed (inner s.value.expr (c.withScope (outer.enter frame)))
        (inner' s.value.expr (c'.withScope (outer.enter frame))))
    (frame : Frame) (result : Value) :
    SameUnless passed (runBody inner c outer frame result body)
      (runBody inner' c' outer frame result body) := by
  induction body generalizing frame result with
  | nil => exact .refl _
  | cons s body ih =>
    obtain ⟨hs, hrest⟩ := List.forall_mem_cons.mp hinner
    cases s with
    | bind name e => exact (hs frame).bind fun v => ih hrest _ _
    | yield e => exact (hs frame).bind fun v => ih hrest _ _

/-- a call has the same outcome if the statements of the body do, with whatever frame -/
theorem FunctionDecl.call_same (f : FunctionDecl) (args : List Value) (hs : c.scope = c'.scope)
    (h : SameDescent passed R c c')
    (hinner : ∀ s ∈ f.body, ∀ frame d d', R d d' →
      SameUnless passed (inner s.value.expr (d.withScope (c.scope.enter frame)))
        (inner' s.value.expr (d'.withScope (c.scope.enter frame)))) :
    SameUnless passed (f.call inner args c) (f.call inner' args c') := by
  unfold call
  rw [← hs]
  dsimp only
  split
  · exact .refl _
  · exact h.bind fun d d' hr => runBody_same f.body (fun s hmem frame => hinner s hmem frame d d' hr)
      _ _

end

/-! ## parts -/

open scoped List

mutual

/-- the parts outside predicates are among all parts -/
theorem Expr.parts_false_sublist (e : Expr) : e.parts false <+ e.parts true := by
  match e with
  | .literal _ | .number _ | .var _ => exact .refl _
  | .path origin steps =>
    unfold Expr.parts
    exact List.Sublist.cons_cons _
      (List.Sublist.append origin.parts_false_sublist (Expr.stepParts_false_sublist steps))
  | .call _ args =>
    unfold Expr.parts
    exact List.Sublist.cons_cons _ (Expr.listParts_false_sublist args)
  | .binary _ left right =>
    unfold Expr.parts
    exact List.Sublist.cons_cons _
      (List.Sublist.append left.parts_false_sublist right.parts_false_sublist)
  | .negate operand =>
    unfold Expr.parts
    exact List.Sublist.cons_cons _ operand.parts_false_sublist
  | .filter base predicates =>
    unfold Expr.parts
    exact List.Sublist.cons_cons _
      (List.Sublist.append base.parts_false_sublist (List.nil_sublist _))
  | .sequence items =>
    unfold Expr.parts
    exact List.Sublist.cons_cons _ (Expr.listParts_false_sublist items)
  | .conditional test yes no =>
    unfold Expr.parts
    exact List.Sublist.cons_cons _ (List.Sublist.append
      (List.Sublist.append test.parts_false_sublist yes.parts_false_sublist)
      no.parts_false_sublist)
  | .quantified _ clauses satisfies =>
    unfold Expr.parts
    exact List.Sublist.cons_cons _ (List.Sublist.append
      (Expr.clauseParts_false_sublist clauses) satisfies.parts_false_sublist)
  | .range first last =>
    unfold Expr.parts
    exact List.Sublist.cons_cons _
      (List.Sublist.append first.parts_false_sublist last.parts_false_sublist)

theorem Origin.parts_false_sublist (o : Origin) : o.parts false <+ o.parts true := by
  match o with
  | .context | .root => exact .refl _
  | .value e => exact e.parts_false_sublist

theorem Expr.listParts_false_sublist (es : List Expr) :
    Expr.listParts false es <+ Expr.listParts true es := by
  match es with
  | [] => exact .refl _
  | e :: es =>
    exact List.Sublist.append e.parts_false_sublist (Expr.listParts_false_sublist es)

theorem Expr.stepParts_false_sublist (ss : List Step) :
    Expr.stepParts false ss <+ Expr.stepParts true ss := by
  match ss with
  | [] => exact .refl _
  | ⟨_, _, predicates⟩ :: ss =>
    exact List.Sublist.append (List.nil_sublist _) (Expr.stepParts_false_sublist ss)

theorem Expr.clauseParts_false_sublist (cs : List Clause) :
    Expr.clauseParts false cs <+ Expr.clauseParts true cs := by
  match cs with
  | [] => exact .refl _
  | ⟨_, domain⟩ :: cs =>
    exact List.Sublist.append domain.parts_false_sublist (Expr.clauseParts_false_sublist cs)

end

/-! ## contexts that agree -/

/-- pairs of contexts in which expressions are compared that stand outside predicates (`false`) or
in them (`true`) -/
structure Agreement where
  rel : Bool → Context → Context → Prop
  document {inside c c'} : rel inside c c' → c.document = c'.document
  root {inside c c'} : rel inside c c' → c.root = c'.root
  scope {inside c c'} : rel inside c c' → c.scope = c'.scope
  namespaces {inside c c'} : rel inside c c' → c.namespaces = c'.namespaces
  /-- in a predicate both sides are about the same item -/
  focus {inside c c'} (i : Item) (position size : Nat) : rel inside c c' →
    rel true (c.focus i position size) (c'.focus i position size)

theorem length_of_evaluateAll {inner : Evaluator} {c : Context} :
    ∀ {es : List Expr} {vs : List Value}, evaluateAll inner es c = .ok vs → vs.length = es.length
  | [], vs, h => by
    cases h
    rfl
  | e :: es, vs, h => by
    rw [evaluateAll] at h
    cases he : e.evaluateWith inner c with
    | error x =>
      rw [he] at h
      cases h
    | ok v =>
      cases hes : evaluateAll inner es c with
      | error x =>
        rw [he, hes] at h
        cases h
      | ok ws =>
        rw [he, hes] at h
        cases h
        exact congrArg (· + 1) (length_of_evaluateAll hes)

namespace Agreement

variable (A : Agreement) (passed : EvalError → Prop) (inner inner' : Evaluator)
  (σ : String → Expr)

/-- what an expression that looks at the context itself, or makes another one, has to satisfy; on
the second side `σ` has the expressions for its variables -/
def LeafSame (inside : Bool) : Expr → Prop
  | .path .context _ => ∀ c c', A.rel inside c c' → c.item = c'.item
  | .var name => ∀ c c', A.rel inside c c' →
    SameUnless passed (evaluateVariable inner name c) ((σ name).evaluateWith inner' c')
  | .call name args => ∀ c c' f vs, A.rel inside c c' → Callable.ofName? c.scope name = some f →
    vs.length = args.length → SameUnless passed (f.invoke inner vs c) (f.invoke inner' vs c')
  | .quantified _ clauses _ => ∀ clause ∈ clauses, ∀ i c c', A.rel inside c c' →
    A.rel inside (c.bindItem clause.name i) (c'.bindItem clause.name i)
  | _ => True

/-- the same of all parts of expressions: `outer` are those outside predicates, `all` all of them -/
structure LeavesSame (inside : Bool) (outer all : List Expr) : Prop where
  outer : ∀ e ∈ outer, A.LeafSame passed inner inner' σ inside e
  all : ∀ e ∈ all, A.LeafSame passed inner inner' σ true e

namespace LeavesSame

variable {A : Agreement} {passed : EvalError → Prop} {inner inner' : Evaluator}
  {σ : String → Expr} {inside : Bool}

theorem of_cons {e e' : Expr} {outer all : List Expr}
    (h : A.LeavesSame passed inner inner' σ inside (e :: outer) (e' :: all)) :
    A.LeafSame passed inner inner' σ inside e ∧ A.LeavesSame passed inner inner' σ inside outer all :=
  ⟨h.outer e List.mem_cons_self, fun x hx => h.outer x (List.mem_cons_of_mem _ hx),
    fun x hx => h.all x (List.mem_cons_of_mem _ hx)⟩

theorem of_append {outer₁ outer₂ all₁ all₂ : List Expr}
    (h : A.LeavesSame passed inner inner' σ inside (outer₁ ++ outer₂) (all₁ ++ all₂)) :
    A.LeavesSame passed inner inner' σ inside outer₁ all₁ ∧
      A.LeavesSame passed inner inner' σ inside outer₂ all₂ :=
  ⟨⟨fun x hx => h.outer x (List.mem_append_left _ hx),
      fun x hx => h.all x (List.mem_append_left _ hx)⟩,
    ⟨fun x hx => h.outer x (List.mem_append_right _ hx),
      fun x hx => h.all x (List.mem_append_right _ hx)⟩⟩

/-- in a predicate nothing stands outside predicates -/
theorem of_predicates {outer : List Expr} {predicates : List Expr}
    (h : A.LeavesSame passed inner inner' σ inside outer (Expr.listParts true predicates)) :
    A.LeavesSame passed inner inner' σ true (Expr.listParts false predicates)
      (Expr.listParts true predicates) :=
  ⟨fun x hx => h.all x ((Expr.listParts_false_sublist predicates).subset hx), h.all⟩

end LeavesSame

end Agreement

/-! ## evaluation -/

section
variable {A : Agreement} {passed : EvalError → Prop} {inner inner' : Evaluator}
  {σ : String → Expr}

/-- a path that is no more than `.` is about any item, every other one about nodes -/
theorem Expr.evaluateWith_path (inner : Evaluator) (origin : Origin) (steps : List Step)
    (c : Context) :
    (Expr.path origin steps).evaluateWith inner c =
      match origin, c.item, isSelfStep steps with
      | .context, .atomic a, true => .ok [.atomic a]
      | _, _, _ => do
        let start ← origin.evaluateWith inner c
        let ns ← evaluateSteps inner steps c start
        return .ofNodes ns := by
  rfl

theorem isSelfStep_substituteSteps (σ : String → Expr) (steps : List Step) :
    isSelfStep (Expr.substituteSteps σ steps) = isSelfStep steps := by
  match steps with
  | [] => rfl
  | [⟨_, _, []⟩] => rfl
  | [⟨_, _, _ :: _⟩] =>
    simp [isSelfStep, Expr.substituteSteps, Step.substitute, Expr.substituteList]
  | _ :: _ :: _ => simp [isSelfStep, Expr.substituteSteps]

theorem Expr.evaluateWith_path_same {origin : Origin} {steps : List Step} {c c' : Context}
    (hitem : origin = .context → c.item = c'.item)
    (horigin : SameUnless passed (origin.evaluateWith inner c)
      ((origin.substitute σ).evaluateWith inner' c'))
    (hsteps : ∀ ns, SameUnless passed (evaluateSteps inner steps c ns)
      (evaluateSteps inner' (Expr.substituteSteps σ steps) c' ns)) :
    SameUnless passed ((Expr.path origin steps).evaluateWith inner c)
      (((Expr.path origin steps).substitute σ).evaluateWith inner' c') := by
  have hnodes := horigin.bind fun start => (hsteps start).bind fun ns =>
    SameUnless.refl (.ok (Value.ofNodes ns))
  rw [Expr.substitute, Expr.evaluateWith_path, Expr.evaluateWith_path, isSelfStep_substituteSteps]
  cases origin with
  | root | value => exact hnodes
  | context =>
    rw [hitem rfl]
    cases c'.item with
    | node => exact hnodes
    | atomic a =>
      cases isSelfStep steps with
      | true => exact .refl _
      | false => exact hnodes

theorem Expr.evaluateWith_binary_same {op : BinaryOp} {left right left' right' : Expr}
    {c c' : Context} (hd : c.document = c'.document)
    (hl : SameUnless passed (left.evaluateWith inner c) (left'.evaluateWith inner' c'))
    (hr : SameUnless passed (right.evaluateWith inner c) (right'.evaluateWith inner' c')) :
    SameUnless passed ((Expr.binary op left right).evaluateWith inner c)
      ((Expr.binary op left' right').evaluateWith inner' c') := by
  cases op with
  | and =>
    rw [Expr.evaluateWith, Expr.evaluateWith]
    refine hl.bind fun v => ?_
    cases v.truth with
    | true => exact hr.bind fun w => .refl _
    | false => exact .refl _
  | or =>
    rw [Expr.evaluateWith, Expr.evaluateWith]
    refine hl.bind fun v => ?_
    cases v.truth with
    | true => exact .refl _
    | false => exact hr.bind fun w => .refl _
  | _ =>
    rw [Expr.evaluateWith, Expr.evaluateWith, hd]
    · exact hl.bind fun v => hr.bind fun w => .refl _
    all_goals nofun

mutual

theorem Expr.evaluateWith_substitute_same (e : Expr) {inside : Bool} {c c' : Context}
    (h : A.LeavesSame passed inner inner' σ inside (e.parts false) (e.parts true))
    (hc : A.rel inside c c') :
    SameUnless passed (e.evaluateWith inner c) ((e.substitute σ).evaluateWith inner' c') := by
  match e with
  | .literal _ | .number _ => exact .refl _
  | .path origin steps =>
    unfold Expr.parts at h
    obtain ⟨hleaf, hrest⟩ := h.of_cons
    obtain ⟨horigin, hsteps⟩ := hrest.of_append
    have hitem : origin = .context → c.item = c'.item := by
      rintro rfl
      exact hleaf c c' hc
    exact Expr.evaluateWith_path_same hitem (origin.evaluateWith_substitute_same horigin hc hitem)
      (evaluateSteps_substitute_same steps hsteps hc)
  | .var name =>
    unfold Expr.parts at h
    exact h.of_cons.1 c c' hc
  | .call name args =>
    unfold Expr.parts at h
    obtain ⟨hleaf, hargs⟩ := h.of_cons
    rw [Expr.substitute, Expr.evaluateWith, Expr.evaluateWith, ← A.scope hc]
    cases hf : Callable.ofName? c.scope name with
    | none => exact .refl _
    | some f =>
      exact (evaluateAll_substitute_same args hargs hc).bind_of_ok fun vs hvs =>
        hleaf c c' f vs hc hf (length_of_evaluateAll hvs)
  | .binary op left right =>
    unfold Expr.parts at h
    obtain ⟨hl, hr⟩ := h.of_cons.2.of_append
    exact Expr.evaluateWith_binary_same (A.document hc) (left.evaluateWith_substitute_same hl hc)
      (right.evaluateWith_substitute_same hr hc)
  | .negate operand =>
    unfold Expr.parts at h
    rw [Expr.substitute, Expr.evaluateWith, Expr.evaluateWith, A.document hc]
    exact (operand.evaluateWith_substitute_same h.of_cons.2 hc).bind fun v => .refl _
  | .filter base predicates =>
    unfold Expr.parts at h
    obtain ⟨hbase, hpredicates⟩ := h.of_cons.2.of_append
    rw [Expr.substitute, Expr.evaluateWith, Expr.evaluateWith]
    exact (base.evaluateWith_substitute_same hbase hc).bind fun v =>
      applyPredicates_substitute_same predicates hpredicates.of_predicates hc v
  | .sequence items =>
    unfold Expr.parts at h
    rw [Expr.substitute, Expr.evaluateWith, Expr.evaluateWith]
    exact (evaluateAll_substitute_same items h.of_cons.2 hc).bind fun vs => .refl _
  | .conditional test yes no =>
    unfold Expr.parts at h
    obtain ⟨htestyes, hno⟩ := h.of_cons.2.of_append
    obtain ⟨htest, hyes⟩ := htestyes.of_append
    rw [Expr.substitute, Expr.evaluateWith, Expr.evaluateWith]
    refine (test.evaluateWith_substitute_same htest hc).bind fun v => ?_
    cases v.truth with
    | true => exact yes.evaluateWith_substitute_same hyes hc
    | false => exact no.evaluateWith_substitute_same hno hc
  | .quantified q clauses satisfies =>
    unfold Expr.parts at h
    obtain ⟨hbind, hrest⟩ := h.of_cons
    obtain ⟨hclauses, hsatisfies⟩ := hrest.of_append
    rw [Expr.substitute, Expr.evaluateWith, Expr.evaluateWith]
    exact (evaluateClauses_substitute_same q clauses hclauses hbind
      (fun hc => (satisfies.evaluateWith_substitute_same hsatisfies hc).map _) hc).map _
  | .range first last =>
    unfold Expr.parts at h
    obtain ⟨hfirst, hlast⟩ := h.of_cons.2.of_append
    rw [Expr.substitute, Expr.evaluateWith, Expr.evaluateWith, A.document hc]
    exact (first.evaluateWith_substitute_same hfirst hc).bind fun v =>
      (SameUnless.refl _).bind fun a =>
        (last.evaluateWith_substitute_same hlast hc).bind fun w => .refl _

theorem Origin.evaluateWith_substitute_same (o : Origin) {inside : Bool} {c c' : Context}
    (h : A.LeavesSame passed inner inner' σ inside (o.parts false) (o.parts true))
    (hc : A.rel inside c c') (hitem : o = .context → c.item = c'.item) :
    SameUnless passed (o.evaluateWith inner c) ((o.substitute σ).evaluateWith inner' c') := by
  match o with
  | .context =>
    rw [Origin.substitute, Origin.evaluateWith, Origin.evaluateWith, c.node_eq, c'.node_eq,
      hitem rfl]
    exact .refl _
  | .root =>
    rw [Origin.substitute, Origin.evaluateWith, Origin.evaluateWith, A.root hc]
    exact .refl _
  | .value e =>
    rw [Origin.substitute, Origin.evaluateWith, Origin.evaluateWith]
    exact (e.evaluateWith_substitute_same h hc).bind fun v => .refl _

theorem evaluateAll_substitute_same (es : List Expr) {inside : Bool} {c c' : Context}
    (h : A.LeavesSame passed inner inner' σ inside (Expr.listParts false es)
      (Expr.listParts true es))
    (hc : A.rel inside c c') :
    SameUnless passed (evaluateAll inner es c)
      (evaluateAll inner' (Expr.substituteList σ es) c') := by
  match es with
  | [] => exact .refl _
  | e :: es =>
    obtain ⟨he, hes⟩ := h.of_append
    exact (e.evaluateWith_substitute_same he hc).bind fun v =>
      (evaluateAll_substitute_same es hes hc).bind fun vs => .refl _

/-- predicates are always inside, wherever what they are about stands -/
theorem applyPredicates_substitute_same (ps : List Expr) {inside : Bool} {c c' : Context}
    (h : A.LeavesSame passed inner inner' σ true (Expr.listParts false ps) (Expr.listParts true ps))
    (hc : A.rel inside c c') (v : Value) :
    SameUnless passed (applyPredicates inner ps c v)
      (applyPredicates inner' (Expr.substituteList σ ps) c' v) := by
  match ps with
  | [] => exact .refl _
  | p :: ps =>
    obtain ⟨hp, hps⟩ := h.of_append
    exact (filterItems_same (fun i position =>
      p.evaluateWith_substitute_same hp (A.focus i position _ hc)) v 1 []).bind fun kept =>
        applyPredicates_substitute_same ps hps hc kept

theorem evaluateSteps_substitute_same (ss : List Step) {inside : Bool} {c c' : Context}
    (h : A.LeavesSame passed inner inner' σ inside (Expr.stepParts false ss)
      (Expr.stepParts true ss))
    (hc : A.rel inside c c') (ns : List Node) :
    SameUnless passed (evaluateSteps inner ss c ns)
      (evaluateSteps inner' (Expr.substituteSteps σ ss) c' ns) := by
  match ss with
  | [] => exact .refl _
  | s :: ss =>
    obtain ⟨hs, hss⟩ := h.of_append
    exact (s.evaluateWith_substitute_same hs hc ns).bind fun found =>
      evaluateSteps_substitute_same ss hss hc found

theorem Step.evaluateWith_substitute_same (s : Step) {inside : Bool} {c c' : Context}
    (h : A.LeavesSame passed inner inner' σ inside (s.parts false) (s.parts true))
    (hc : A.rel inside c c') (ns : List Node) :
    SameUnless passed (s.evaluateWith inner c ns) ((s.substitute σ).evaluateWith inner' c' ns) := by
  match s with
  | ⟨axis, test, predicates⟩ =>
    rw [Step.substitute, Step.evaluateWith, Step.evaluateWith, A.document hc, A.namespaces hc]
    refine (SameUnless.refl _).bind fun m => SameUnless.bind ?_ fun found => .refl _
    exact .foldlM (fun row n =>
      (applyPredicates_substitute_same predicates h.of_predicates hc _).bind
        fun kept => .refl _) ns []

theorem evaluateClauses_substitute_same (q : Quantifier) (cs : List Clause) {inside : Bool}
    {c c' : Context} {body body' : Context → Except EvalError Bool}
    (h : A.LeavesSame passed inner inner' σ inside (Expr.clauseParts false cs)
      (Expr.clauseParts true cs))
    (hbind : ∀ clause ∈ cs, ∀ i c c', A.rel inside c c' →
      A.rel inside (c.bindItem clause.name i) (c'.bindItem clause.name i))
    (hbody : ∀ {c c'}, A.rel inside c c' → SameUnless passed (body c) (body' c'))
    (hc : A.rel inside c c') :
    SameUnless passed (evaluateClauses inner q body cs c)
      (evaluateClauses inner' q body' (Expr.substituteClauses σ cs) c') := by
  match cs with
  | [] => exact hbody hc
  | ⟨name, domain⟩ :: cs =>
    obtain ⟨hclause, hcs⟩ := h.of_append
    obtain ⟨hname, hbind⟩ := List.forall_mem_cons.mp hbind
    exact (domain.evaluateWith_substitute_same hclause hc).bind fun v => quantify_same
      (fun i => evaluateClauses_substitute_same q cs hcs hbind hbody (hname i c c' hc)) v

end

/-- the same expression on both sides -/
theorem Expr.evaluateWith_same (e : Expr) {inside : Bool} {c c' : Context}
    (h : A.LeavesSame passed inner inner' .var inside (e.parts false) (e.parts true))
    (hc : A.rel inside c c') :
    SameUnless passed (e.evaluateWith inner c) (e.evaluateWith inner' c') := by
  have hsame := e.evaluateWith_substitute_same h hc
  rwa [e.substitute_var] at hsame

end

end Rulebook
