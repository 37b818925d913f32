import Rulebook.Proofs.Document.Prefixes
import Rulebook.Proofs.Evaluation.Recursion

/-!
# Evaluation without prefixes

Names are compared by their namespaces and local parts.  The prefix that a document has for a name
is shown by the function `name`, and by the error about an element that is no leaf.

* `Alike`                    outcomes that are the same but for the name that an error shows;
* `Context.bare`             a context about the document without its prefixes;
* `Environment.AsksNoName`   neither an expression nor a definition that it reaches calls `name`.

`evaluate_of_sameButPrefixes`: **without calls to `name` the prefixes of a document change neither
the value of an expression nor the kind of its error.**
-/

set_option autoImplicit false

namespace Rulebook

/-! ## outcomes -/

/-- the error without the name that it shows as the document has it -/
def EvalError.nameless : EvalError → EvalError
  | notLeaf _ => notLeaf ""
  | e => e

/-- the outcomes are the same value, or the same error but for a name in it -/
def Alike {α : Type} (x y : Except EvalError α) : Prop :=
  x.mapError EvalError.nameless = y.mapError EvalError.nameless

namespace Alike

variable {α β : Type}

theorem refl (x : Except EvalError α) : Alike x x := rfl

theorem cases {x y : Except EvalError α} (h : Alike x y) : (∃ a, x = .ok a ∧ y = .ok a) ∨
    ∃ e e', x = .error e ∧ y = .error e' ∧ e.nameless = e'.nameless := by
  cases x <;> cases y
  · exact .inr ⟨_, _, rfl, rfl, Except.error.inj h⟩
  · cases h
  · cases h
  · cases h
    exact .inl ⟨_, rfl, rfl⟩

theorem bind {x y : Except EvalError α} {f g : α → Except EvalError β} (h : Alike x y)
    (hfg : ∀ a, Alike (f a) (g a)) : Alike (x >>= f) (y >>= g) := by
  rcases h.cases with ⟨a, rfl, rfl⟩ | ⟨e, e', rfl, rfl, he⟩
  · exact hfg a
  · exact congrArg Except.error he

theorem map {x y : Except EvalError α} (h : Alike x y) (f : α → β) :
    Alike (x.map f) (y.map f) := by
  rcases h.cases with ⟨a, rfl, rfl⟩ | ⟨e, e', rfl, rfl, he⟩
  · exact refl _
  · exact congrArg Except.error he

theorem foldlM {f g : β → α → Except EvalError β} (as : List α)
    (h : ∀ a ∈ as, ∀ b, Alike (f b a) (g b a)) (b : β) : Alike (as.foldlM f b) (as.foldlM g b) := by
  induction as generalizing b with
  | nil => exact refl _
  | cons a as ih =>
    obtain ⟨ha, has⟩ := List.forall_mem_cons.mp h
    rw [List.foldlM_cons, List.foldlM_cons]
    exact (ha b).bind (ih has)

theorem mapM {f g : α → Except EvalError β} (as : List α) (h : ∀ a ∈ as, Alike (f a) (g a)) :
    Alike (as.mapM f) (as.mapM g) := by
  induction as with
  | nil => exact refl _
  | cons a as ih =>
    obtain ⟨ha, has⟩ := List.forall_mem_cons.mp h
    rw [List.mapM_cons, List.mapM_cons]
    exact ha.bind fun _ => (ih has).bind fun _ => refl _

end Alike

/-! ## values -/

section
variable (d : Document)

theorem Item.atomize_bare : Item.atomize d.bare = Item.atomize d := by
  funext i
  cases i with
  | atomic a => rfl
  | node n => exact congrArg Atomic.text (congrFun d.stringValue_bare n)

theorem Item.text_bare : Item.text d.bare = Item.text d := by
  funext i
  unfold text
  rw [atomize_bare]

namespace Value

theorem text_bare : Value.text d.bare = Value.text d := by
  funext v
  cases v with
  | nil => rfl
  | cons i v => exact congrFun (Item.text_bare d) i

theorem number_bare : Value.number d.bare = Value.number d := by
  funext v
  cases v with
  | nil => rfl
  | cons i v => exact congrArg Atomic.asNumber (congrFun (Item.atomize_bare d) i)

theorem atomize_bare : Value.atomize d.bare = Value.atomize d := by
  funext v
  exact congrArg (v.map ·) (Item.atomize_bare d)

end Value

/-- only the error about an element with elements in it shows a name -/
theorem Item.single_alike (i : Item) : Alike (i.single d.bare) (i.single d) := by
  cases i with
  | atomic a => exact .refl _
  | node n =>
    rw [single, single, d.kind_bare, d.hasElementChildren_bare, d.stringValue_bare]
    cases d.kind n with
    | element =>
      cases d.hasElementChildren n with
      | true => exact rfl
      | false => exact .refl _
    | _ => exact .refl _

namespace Value

theorem single?_alike (v : Value) : Alike (v.single? d.bare) (v.single? d) :=
  match v with
  | [] => .refl _
  | [i] => (i.single_alike d).map some
  | _ :: _ :: _ => .refl _

theorem operand_alike (v : Value) : Alike (v.operand d.bare) (v.operand d) :=
  (v.single?_alike d).map _

theorem arithmetic_alike (f : Float → Float → Float) (left right : Value) :
    Alike (arithmetic d.bare f left right) (arithmetic d f left right) :=
  (left.operand_alike d).bind fun _ => (right.operand_alike d).bind fun _ => .refl _

theorem compareSingle_alike (r : Relation) (left right : Value) :
    Alike (compareSingle d.bare r left right) (compareSingle d r left right) :=
  (left.single?_alike d).bind fun _ => (right.single?_alike d).bind fun _ => .refl _

end Value

theorem BinaryOp.apply_alike (op : BinaryOp) (left right : Value) :
    Alike (op.apply d.bare left right) (op.apply d left right) := by
  cases op with
  | general r =>
    unfold apply Value.generalHolds
    rw [Value.atomize_bare]
    exact .refl _
  | value r => exact Value.compareSingle_alike d r left right
  | add | subtract | multiply | divide | modulo => exact Value.arithmetic_alike d _ left right
  | or | and | union => exact .refl _

theorem rangeBound?_alike (v : Value) : Alike (rangeBound? d.bare v) (rangeBound? d v) :=
  (v.single?_alike d).bind fun _ => .refl _

/-- tests look at namespaces and local parts -/
theorem Matcher.accepts_bare (m : Matcher) (principal : NodeKind) :
    m.accepts d.bare principal = m.accepts d principal := by
  funext n
  have hnamed {p : Name → Bool} (h : ∀ q : Name, p q.bare = p q) :
      accepts.named d.bare principal n p = accepts.named d principal n p := by
    unfold accepts.named
    rw [d.qualified?_bare, Option.any_map]
    exact congrArg (fun p => _ && (d.qualified? n).any p) (funext h)
  cases m with
  | kind k =>
    unfold accepts KindTest.accepts
    rw [d.kind_bare]
  | any | localPart _ | named _ _ | within _ => exact hnamed fun q => rfl

end

/-! ## contexts -/

namespace Context

/-- the context about the document without its prefixes -/
def bare (c : Context) : Context := { c with document := c.document.bare }

variable {c : Context}

theorem node_bare (c : Context) : c.bare.node = c.node := by
  rw [node_eq, node_eq]
  rfl

theorem descend_bare_alike {α : Type} {f g : Context → Except EvalError α}
    (h : ∀ deeper, c.descend = .ok deeper → Alike (f deeper.bare) (g deeper)) :
    Alike (c.bare.descend >>= f) (c.descend >>= g) := by
  have hbare : c.bare.descend = c.descend.map bare := by
    show (if c.depth < c.maxDepth then _ else _) = c.descend.map bare
    unfold descend
    by_cases hlt : c.depth < c.maxDepth
    · rw [if_pos hlt, if_pos hlt]
      rfl
    · rw [if_neg hlt, if_neg hlt]
      rfl
  rw [hbare]
  cases hdeeper : c.descend with
  | error e => exact .refl _
  | ok deeper => exact h deeper hdeeper

end Context

/-! ## built-in functions -/

namespace Builtin

variable (c : Context)

theorem namePart_bare (part : Name → String) (h : ∀ q : Name, part q.bare = part q) :
    namePart c.bare part = namePart c part := by
  funext n
  unfold namePart Context.bare
  rw [c.document.name?_bare, Option.map_map]
  exact congrArg (fun part => Value.ofText (((c.document.name? n).map part).getD "")) (funext h)

theorem nameOf_bare (b : Builtin) (part : Name → String)
    (h : ∀ q : Name, part q.bare = part q) : nameOf b c.bare part = nameOf b c part := by
  funext v
  unfold nameOf
  rw [namePart_bare c part h]

/-- a language is declared by the prefix `xml`, which stays -/
theorem declaredLanguage?_bare (d : Document) : declaredLanguage? d.bare = declaredLanguage? d := by
  funext n
  unfold declaredLanguage?
  rw [d.attributes_bare, d.stringValue_bare]
  refine congrArg (List.findSome? · (d.attributes n)) (funext fun a => ?_)
  rw [d.name?_bare]
  cases d.name? a with
  | none => rfl
  | some q =>
    show (if q.bare.qualifier == some "xml" && q.bare.localPart == "lang" then _ else _) = _
    rw [q.qualifier_bare_beq]
    rfl

theorem speaks_bare (d : Document) : speaks d.bare = speaks d := by
  funext n tested
  unfold speaks
  rw [declaredLanguage?_bare]

theorem instantOf_alike (b : Builtin) (part : Time.Instant → Time.Instant) (v : Value) :
    Alike (instantOf b c.bare part v) (instantOf b c part v) :=
  (v.single?_alike c.document).bind fun _ => .refl _

/-- only `name` shows a prefix -/
theorem invoke_alike {b : Builtin} (hb : b ≠ .name) (args : List Value) :
    Alike (b.invoke args c.bare) (b.invoke args c) := by
  have hitem : Item.text c.bare.document = Item.text c.document := Item.text_bare c.document
  have htext : Value.text c.bare.document = Value.text c.document := Value.text_bare c.document
  have hnumber : Value.number c.bare.document = Value.number c.document :=
    Value.number_bare c.document
  have hatomize : Value.atomize c.bare.document = Value.atomize c.document :=
    Value.atomize_bare c.document
  have hspeaks : speaks c.bare.document = speaks c.document := speaks_bare c.document
  have hlocal (q : Name) : q.bare.localPart = q.localPart := rfl
  have huri (q : Name) : q.bare.uri.getD "" = q.uri.getD "" := rfl
  unfold invoke
  rw [hitem, htext, hnumber, hatomize, hspeaks, c.node_bare, namePart_bare c Name.localPart hlocal,
    namePart_bare c (fun q => q.uri.getD "") huri]
  split
  all_goals first
    | exact absurd rfl hb
    | exact instantOf_alike c _ _ _
    | rw [nameOf_bare c _ Name.localPart hlocal]; exact .refl _
    | rw [nameOf_bare c _ (fun q => q.uri.getD "") huri]; exact .refl _
    | exact .refl _

end Builtin

/-! ## one round of evaluation -/

section
variable {recur : Evaluator} {c : Context}

theorem filterItems_alike {p : Expr} (h : ∀ d, c.SameLevel d → Alike (recur p d.bare) (recur p d))
    (size : Nat) (v : Value) (position : Nat) (kept : Value) :
    Alike (filterItems (recur p) c.bare size position v kept)
      (filterItems (recur p) c size position v kept) := by
  induction v generalizing position kept with
  | nil => exact .refl _
  | cons i v ih => exact (h _ ((Context.SameLevel.refl c).focus i position size)).bind fun _ => ih _ _

theorem applyPredicatesBy_alike {ps : List Expr}
    (h : ∀ p ∈ ps, ∀ d, c.SameLevel d → Alike (recur p d.bare) (recur p d)) (v : Value) :
    Alike (applyPredicatesBy recur ps c.bare v) (applyPredicatesBy recur ps c v) :=
  .foldlM ps (fun p hp v => filterItems_alike (h p hp) v.length v 1 []) v

theorem Step.nodesBy_alike {s : Step}
    (h : ∀ p ∈ s.predicates, ∀ d, c.SameLevel d → Alike (recur p d.bare) (recur p d))
    (ns : List Node) : Alike (s.nodesBy recur c.bare ns) (s.nodesBy recur c ns) := by
  unfold nodesBy
  refine Alike.bind (.refl _) fun m => Alike.bind (.foldlM ns (fun n _ row => ?_) []) fun _ => .refl _
  show Alike (applyPredicatesBy recur s.predicates c.bare (.ofNodes
    ((c.document.bare.along n s.axis).filter (m.accepts c.document.bare s.axis.principal))) >>= _) _
  rw [c.document.along_bare, m.accepts_bare]
  exact (applyPredicatesBy_alike h _).bind fun _ => .refl _

theorem Origin.nodesBy_alike {o : Origin}
    (h : ∀ x ∈ o.children, Alike (recur x c.bare) (recur x c)) :
    Alike (o.nodesBy recur c.bare) (o.nodesBy recur c) := by
  cases o with
  | context =>
    rw [nodesBy, nodesBy, c.node_bare]
    exact .refl _
  | root => exact .refl _
  | value e => exact (h e (List.mem_singleton_self e)).bind fun _ => .refl _

theorem quantify_alike {q : Quantifier} {test test' : Item → Except EvalError Bool}
    (h : ∀ i, Alike (test i) (test' i)) (v : Value) :
    Alike (quantify q test v) (quantify q test' v) := by
  induction v with
  | nil => exact .refl _
  | cons i v ih =>
    refine (h i).bind fun holds => ?_
    show Alike (if holds == (q == .some) then _ else _) (if _ then _ else _)
    cases holds == (q == .some) with
    | true => exact .refl _
    | false => exact ih

theorem holdsBy_alike {q : Quantifier} {satisfies : Expr} {cs : List Clause}
    (hs : ∀ d, c.SameLevel d → Alike (recur satisfies d.bare) (recur satisfies d))
    (hcs : ∀ clause ∈ cs, ∀ d, c.SameLevel d →
      Alike (recur clause.domain d.bare) (recur clause.domain d)) {d : Context}
    (hd : c.SameLevel d) :
    Alike (holdsBy recur q satisfies cs d.bare) (holdsBy recur q satisfies cs d) := by
  induction cs generalizing d with
  | nil => exact (hs d hd).map Value.truth
  | cons clause cs ih =>
    obtain ⟨hclause, hcs⟩ := List.forall_mem_cons.mp hcs
    exact (hclause d hd).bind fun v =>
      quantify_alike (fun i => ih hcs (hd.bindItem clause.name i)) v

theorem runBody_alike {outer : Scope} (body : List Statement)
    (h : ∀ s ∈ body, ∀ frame, Alike (recur s.value.expr (c.bare.withScope (outer.enter frame)))
      (recur s.value.expr (c.withScope (outer.enter frame))))
    (frame : Frame) (result : Value) :
    Alike (runBody recur c.bare outer frame result body)
      (runBody recur c outer frame result body) := by
  induction body generalizing frame result with
  | nil => exact .refl _
  | cons s body ih =>
    obtain ⟨hs, hrest⟩ := List.forall_mem_cons.mp h
    cases s with
    | bind name e => exact (hs frame).bind fun _ => ih hrest _ _
    | yield e => exact (hs frame).bind fun _ => ih hrest _ _

/-- a variable has the same outcome if its definition does, where it was declared -/
theorem evaluateVariable_alike {name : String}
    (h : ∀ definition env deeper, c.scope.environment.definition? name = some (definition, env) →
      c.descend = .ok deeper →
      Alike (recur definition.expr (deeper.bare.withScope (.ofEnvironment env)))
        (recur definition.expr (deeper.withScope (.ofEnvironment env)))) :
    Alike (evaluateVariable recur name c.bare) (evaluateVariable recur name c) := by
  have hscope : c.bare.scope = c.scope := rfl
  unfold evaluateVariable Scope.lookup
  rw [hscope]
  cases c.scope.value? name with
  | some v => exact .refl _
  | none =>
    cases hdefinition : c.scope.environment.definition? name with
    | none => exact .refl _
    | some found => exact Context.descend_bare_alike (h found.1 found.2 · hdefinition)

/-- a call has the same outcome if the statements of the body do, with whatever frame -/
theorem FunctionDecl.call_alike (f : FunctionDecl) (args : List Value)
    (h : ∀ s ∈ f.body, ∀ frame deeper, c.descend = .ok deeper →
      Alike (recur s.value.expr (deeper.bare.withScope (c.scope.enter frame)))
        (recur s.value.expr (deeper.withScope (c.scope.enter frame)))) :
    Alike (f.call recur args c.bare) (f.call recur args c) := by
  unfold call
  dsimp only
  split
  · exact .refl _
  · exact Context.descend_bare_alike fun deeper hdeeper =>
      runBody_alike f.body (fun s hs frame => h s hs frame deeper hdeeper) _ _

theorem Expr.evaluateBy_binary_alike {op : BinaryOp} {left right : Expr}
    (hleft : Alike (recur left c.bare) (recur left c))
    (hright : Alike (recur right c.bare) (recur right c)) :
    Alike ((Expr.binary op left right).evaluateBy recur c.bare)
      ((Expr.binary op left right).evaluateBy recur c) := by
  cases op with
  | and =>
    rw [evaluateBy, evaluateBy]
    refine hleft.bind fun v => ?_
    cases v.truth with
    | true => exact hright.bind fun w => .refl _
    | false => exact .refl _
  | or =>
    rw [evaluateBy, evaluateBy]
    refine hleft.bind fun v => ?_
    cases v.truth with
    | true => exact .refl _
    | false => exact hright.bind fun w => .refl _
  | _ => exact hleft.bind fun v => hright.bind fun w => BinaryOp.apply_alike c.document _ v w

end

theorem Callable.ofName?_of_builtin {s : Scope} {name : String} {b : Builtin}
    (h : ofName? s name = some (.builtin b)) : Builtin.ofName? name = some b := by
  unfold ofName? at h
  split at h
  · cases h
  · obtain ⟨b', hb, heq⟩ := Option.map_eq_some_iff.mp h
    cases heq
    exact hb

/-- a path that is no more than `.` is about any item, every other one about nodes -/
theorem Expr.evaluateBy_path (recur : Evaluator) (origin : Origin) (steps : List Step)
    (c : Context) :
    (Expr.path origin steps).evaluateBy recur c =
      match origin, c.item, isSelfStep steps with
      | .context, .atomic a, true => .ok [.atomic a]
      | _, _, _ => do
        let start ← origin.nodesBy recur c
        let ns ← steps.foldlM (fun ns s => s.nodesBy recur c ns) start
        return .ofNodes ns := by
  rfl

/-- a round has the same outcome about the document without prefixes if what it asks for has -/
theorem Expr.evaluateBy_alike {recur : Evaluator} {e : Expr} {c : Context}
    (he : ∀ call, e.builtinCall? = some call → call.1 ≠ .name)
    (h : ∀ x d, e.LeadsTo c x d → Alike (recur x d.bare) (recur x d)) :
    Alike (e.evaluateBy recur c.bare) (e.evaluateBy recur c) := by
  have hself : c.SameLevel c := .refl c
  have hchild {x : Expr} (hx : x ∈ e.children) (d : Context) (hd : c.SameLevel d) :
      Alike (recur x d.bare) (recur x d) := h x d (.child hx hd)
  cases e with
  | literal _ | number _ => exact .refl _
  | path origin steps =>
    have horigin : Alike (origin.nodesBy recur c.bare) (origin.nodesBy recur c) :=
      Origin.nodesBy_alike fun x hx => hchild (List.mem_append_left _ hx) c hself
    have hsteps (ns : List Node) := Alike.foldlM steps (fun s hs ns =>
      Step.nodesBy_alike (fun p hp => hchild
        (List.mem_append_right _ (List.mem_flatMap.mpr ⟨s, hs, hp⟩))) ns) ns
    have hnodes := horigin.bind fun start => (hsteps start).bind fun ns =>
      Alike.refl (.ok (Value.ofNodes ns))
    have hitem : c.bare.item = c.item := rfl
    rw [evaluateBy_path, evaluateBy_path, hitem]
    cases origin with
    | root | value => exact hnodes
    | context =>
      cases c.item with
      | node => exact hnodes
      | atomic a =>
        -- the step `.` alone leaves a literal as it is
        cases isSelfStep steps with
        | true => exact .refl _
        | false => exact hnodes
  | var name =>
    exact evaluateVariable_alike fun _ _ _ hdefinition hdeeper =>
      h _ _ (.definition hdefinition hdeeper)
  | call name args =>
    have hscope : c.bare.scope = c.scope := rfl
    rw [evaluateBy, evaluateBy, hscope]
    cases hf : Callable.ofName? c.scope name with
    | none => exact .refl _
    | some f =>
      refine (Alike.mapM args fun x hx => hchild hx c hself).bind fun vs => ?_
      cases f with
      | declared f =>
        exact f.call_alike vs fun s hs frame deeper hdeeper =>
          h _ _ (.statement (Callable.function?_of_declared hf) hs hdeeper)
      | builtin b =>
        have hcall : (Expr.call name args).builtinCall? = some (b, args.length) := by
          rw [builtinCall?, Callable.ofName?_of_builtin hf]
          rfl
        exact Builtin.invoke_alike c (he _ hcall) vs
  | binary op left right =>
    exact evaluateBy_binary_alike (hchild List.mem_cons_self c hself)
      (hchild (List.mem_cons_of_mem _ List.mem_cons_self) c hself)
  | negate operand =>
    exact (hchild List.mem_cons_self c hself).bind fun v =>
      (v.operand_alike c.document).bind fun _ => .refl _
  | filter base predicates =>
    exact (hchild List.mem_cons_self c hself).bind fun v =>
      applyPredicatesBy_alike (fun p hp => hchild (List.mem_cons_of_mem _ hp)) v
  | sequence items =>
    exact (Alike.mapM items fun x hx => hchild hx c hself).bind fun _ => .refl _
  | conditional test yes no =>
    refine (hchild List.mem_cons_self c hself).bind fun v => ?_
    cases v.truth with
    | true => exact hchild (List.mem_cons_of_mem _ List.mem_cons_self) c hself
    | false =>
      exact hchild (List.mem_cons_of_mem _ (List.mem_cons_of_mem _ List.mem_cons_self)) c hself
  | quantified q clauses satisfies =>
    exact (holdsBy_alike (hchild List.mem_cons_self) (fun clause hclause =>
      hchild (List.mem_cons_of_mem _ (List.mem_map_of_mem hclause))) hself).map _
  | range first last =>
    exact (hchild List.mem_cons_self c hself).bind fun v =>
      (rangeBound?_alike c.document v).bind fun a =>
        (hchild (List.mem_cons_of_mem _ List.mem_cons_self) c hself).bind fun w =>
          (rangeBound?_alike c.document w).bind fun b => .refl _

/-! ## evaluation -/

/-- none of the calls in the expression is one of `name` -/
def Expr.AsksNoName (e : Expr) : Prop := ∀ call ∈ e.calls true, call.1 ≠ .name

instance (e : Expr) : Decidable e.AsksNoName :=
  inferInstanceAs (Decidable (∀ call ∈ e.calls true, call.1 ≠ .name))

/-- neither the expression nor a definition that it reaches calls `name` -/
structure Environment.AsksNoName (env : Environment) (e : Expr) : Prop where
  self : e.AsksNoName
  reached : ∀ env' x, Expr.Reaches env e env' x → x.AsksNoName

theorem Expr.AsksNoName.of_mem_children {e x : Expr} (h : e.AsksNoName) (hx : x ∈ e.children) :
    x.AsksNoName := fun call hcall => by
  obtain ⟨part, hpart, hcall⟩ := List.mem_filterMap.mp hcall
  exact h call (mem_calls (parts_subset_of_mem_children hx hpart) hcall)

/-- what an evaluation asks for does not call `name` either -/
theorem Expr.LeadsTo.asksNoName {e x : Expr} {c d : Context} (h : e.LeadsTo c x d)
    (hname : c.scope.environment.AsksNoName e) : d.scope.environment.AsksNoName x := by
  have hreached {env : Environment} {y : Expr} (hy : Reaches c.scope.environment e env y) :
      env.AsksNoName y :=
    ⟨hname.reached env y hy, fun env' z hz => hname.reached env' z (hy.trans hz)⟩
  cases h with
  | child hx hd =>
    rw [hd.environment]
    exact ⟨hname.self.of_mem_children hx,
      fun env' y hy => hname.reached env' y (hy.of_mem_children hx)⟩
  | definition hdefinition _ => exact hreached (.definition (mem_parts_self _ _) hdefinition)
  | statement hf hs _ => exact hreached (.statement (mem_parts_self _ _) hf hs)

/-- an evaluation has the same outcome about the document without prefixes -/
theorem Expr.evaluate_bare_alike {e : Expr} {c : Context}
    (h : c.scope.environment.AsksNoName e) : Alike (e.evaluate c.bare) (e.evaluate c) := by
  obtain ⟨size, hsize⟩ := c.scope.environment.exists_bounds e
  -- a definition may be larger than what refers to it, but what a round asks for costs less
  induction hcost : e.size + c.remaining * size using Nat.strong_induction_on
    generalizing e c with
  | _ cost ih =>
    subst hcost
    rw [evaluate_eq_evaluateBy, evaluate_eq_evaluateBy]
    refine evaluateBy_alike
      (fun call hcall => h.self call (mem_calls (mem_parts_self true e) hcall)) fun x d hx => ?_
    exact ih _ (hx.cost_lt hsize) (hx.asksNoName h) (hx.bounds hsize) rfl

/-- **The prefixes of a document have no part in evaluation.**  If neither an expression nor a
definition that it reaches calls `name`, then in contexts that differ in the prefixes of the document
alone it has the same value, or it fails with the same error, in which a name may be shown with
another prefix. -/
theorem Expr.evaluate_of_sameButPrefixes {e : Expr} {c : Context} {d : Document}
    (h : c.scope.environment.AsksNoName e) (hd : c.document.SameButPrefixes d) :
    (∀ v, e.evaluate c = .ok v ↔ e.evaluate { c with document := d } = .ok v) ∧
    ∀ x, e.evaluate c = .error x →
      ∃ y, e.evaluate { c with document := d } = .error y ∧ x.nameless = y.nameless := by
  have hbare : c.bare = ({ c with document := d } : Context).bare :=
    congrArg (fun document => { c with document }) hd
  have hother : Alike (e.evaluate c.bare) (e.evaluate { c with document := d }) := by
    rw [hbare]
    exact evaluate_bare_alike (c := { c with document := d }) h
  have halike : Alike (e.evaluate c) (e.evaluate { c with document := d }) :=
    (evaluate_bare_alike h).symm.trans hother
  rcases halike.cases with ⟨v, hv, hv'⟩ | ⟨x, y, hx, hy, hxy⟩
  · rw [hv, hv']
    exact ⟨fun _ => Iff.rfl, nofun⟩
  · rw [hx, hy]
    exact ⟨fun _ => ⟨nofun, nofun⟩, fun _ hx => ⟨y, rfl, by cases hx; exact hxy⟩⟩

/-- an invoice whose names have a namespace, shown with a prefix or without -/
def prefixedInvoice (qualifier : Option String) : Document :=
  ⟨[.element ⟨qualifier, some "urn:invoice", "invoice"⟩ []
    [.element ⟨qualifier, some "urn:invoice", "item"⟩ [⟨.plain "sku", "A1"⟩] [.text "Widget"],
     .element ⟨qualifier, some "urn:invoice", "note"⟩
      [⟨⟨some "xml", some xmlNamespace, "lang"⟩, "en"⟩] [.text "paid"]]]⟩

/-- the whole of it, where a variable stands for an expression and a prefix for the namespace -/
def wholePrefixedInvoice (qualifier : Option String) (items : Compiled) : Context :=
  .new (prefixedInvoice qualifier) (.node .root) .root
    (.ofEnvironment [.single "items" items]) (.insert ∅ "i" "urn:invoice") ⟨0, 0, 0⟩

/-- the article numbers of the items, without prefixes in the document and with one -/
theorem Expr.evaluate_of_sameButPrefixes_invoice : ∃ items e : Compiled,
    compile "//i:item" .xpath1 .full = .ok items ∧
    compile "$items[local-name() = 'item']/@sku" .xpath1 .full = .ok e ∧
    Environment.AsksNoName [.single "items" items] e.expr ∧
    (prefixedInvoice none).SameButPrefixes (prefixedInvoice (some "inv")) ∧
    ∃ v, e.expr.evaluate (wholePrefixedInvoice none items) = .ok v ∧
      v.filterMap Item.node? = [⟨[0, 0], 1⟩] ∧
      e.expr.evaluate (wholePrefixedInvoice (some "inv") items) = .ok v := by
  have hrun : (compile "//i:item" .xpath1 .full).toOption.any (fun items =>
      (compile "$items[local-name() = 'item']/@sku" .xpath1 .full).toOption.any fun e =>
      decide items.expr.AsksNoName && decide e.expr.AsksNoName &&
      (e.expr.evaluate (wholePrefixedInvoice none items)).toOption.any fun v =>
        decide (v.filterMap Item.node? = [⟨[0, 0], 1⟩])) = true := by
    decide +kernel
  obtain ⟨items, hitems, hrun⟩ := exists_ok_of_any hrun
  obtain ⟨e, he, hrun⟩ := exists_ok_of_any hrun
  obtain ⟨hnames, hrun⟩ := Bool.and_eq_true_iff.mp hrun
  obtain ⟨hitemsName, heName⟩ := Bool.and_eq_true_iff.mp hnames
  obtain ⟨v, hv, hnodes⟩ := exists_ok_of_any hrun
  have hname : Environment.AsksNoName [.single "items" items] e.expr := by
    refine ⟨of_decide_eq_true heName, fun env x h => ?_⟩
    have hx : x ∈ [items.expr] := (Environment.of_reaches h).2
    rw [List.mem_singleton.mp hx]
    exact of_decide_eq_true hitemsName
  have hsame : (prefixedInvoice none).SameButPrefixes (prefixedInvoice (some "inv")) := rfl
  obtain ⟨hvalue, -⟩ := Expr.evaluate_of_sameButPrefixes
    (c := wholePrefixedInvoice none items) hname hsame
  exact ⟨items, e, hitems, he, hname, hsame, v, hv, of_decide_eq_true hnodes, (hvalue v).mp hv⟩

end Rulebook
