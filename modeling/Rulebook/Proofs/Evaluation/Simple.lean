import Rulebook.Document.Invoice
import Rulebook.Proofs.Evaluation.Agreement
import Rulebook.Proofs.Evaluation.Steps

/-!
# Values of the first language

Without sequences, ranges and the like an expression can only have two kinds of values.

* `Value.Simple`   nodes in document order, each once, or a single literal;
* `Compiled.First`, `FunctionDecl.First`, `Scope.First`  what is written in the first language: its
                   expressions, functions that yield at most one value, and what is declared so.

`evaluate_simple`: **in a scope of the first language every value of an expression of that language
is simple.**
-/

set_option autoImplicit false

namespace Rulebook

/-! ## simple values -/

namespace Value

/-- nodes in document order, each once, or a single literal -/
def Simple (v : Value) : Prop :=
  (∃ ns, Node.Ascending ns ∧ v = ofNodes ns) ∨ ∃ a, v = [.atomic a]

theorem simple_ofNodes {ns : List Node} (h : Node.Ascending ns) : Simple (ofNodes ns) :=
  .inl ⟨ns, h, rfl⟩

theorem simple_nil : Simple [] := simple_ofNodes Node.ascending_nil

theorem simple_literal (a : Atomic) : Simple [.atomic a] := .inr ⟨a, rfl⟩

theorem simple_singleton : ∀ i : Item, Simple [i]
  | .atomic a => simple_literal a
  | .node n => simple_ofNodes (Node.ascending_singleton n)

theorem Simple.sublist {v w : Value} (h : v.Simple) (hw : w.Sublist v) : w.Simple := by
  rcases h with ⟨ns, hns, rfl⟩ | ⟨a, rfl⟩
  · obtain ⟨ms, hms, rfl⟩ := List.sublist_map_iff.mp hw
    exact simple_ofNodes (List.Pairwise.sublist hms hns)
  · rcases List.sublist_singleton.mp hw with rfl | rfl
    · exact simple_nil
    · exact simple_literal a

/-- a simple value with nothing but nodes has them in document order -/
theorem Simple.ascending_of_nodes {v : Value} (h : v.Simple) {ns : List Node}
    (hns : v.nodes = .ok ns) : Node.Ascending ns := by
  rcases h with ⟨ms, hms, rfl⟩ | ⟨a, rfl⟩
  · rw [nodes_ofNodes] at hns
    cases hns
    exact hms
  · rw [nodes_atomic_cons] at hns
    cases hns

theorem simple_of_union {v w u : Value} (h : union v w = .ok u) : u.Simple := by
  obtain ⟨ns, -, h⟩ := bind_eq_ok_iff.mp h
  obtain ⟨ms, -, h⟩ := bind_eq_ok_iff.mp h
  cases h
  exact simple_ofNodes (Node.ascending_inOrder _)

theorem simple_of_arithmetic {d : Document} {f : Float → Float → Float} {v w u : Value}
    (h : arithmetic d f v w = .ok u) : u.Simple := by
  obtain ⟨x, -, h⟩ := bind_eq_ok_iff.mp h
  obtain ⟨y, -, h⟩ := bind_eq_ok_iff.mp h
  cases h
  exact simple_literal _

end Value

/-- only a comparison of single values has operands that it returns nothing for -/
theorem BinaryOp.simple_of_apply {d : Document} {op : BinaryOp} (hop : ∀ r, op ≠ .value r)
    {v w u : Value} (h : op.apply d v w = .ok u) : u.Simple := by
  cases op with
  | value r => exact absurd rfl (hop r)
  | or | and | general =>
    cases h
    exact Value.simple_literal _
  | union => exact Value.simple_of_union h
  | add | subtract | multiply | divide | modulo => exact Value.simple_of_arithmetic h

theorem BinaryOp.simple_of_evaluateWith {inner : Evaluator} {op : BinaryOp}
    (hop : ∀ r, op ≠ .value r) {left right : Expr} {c : Context} {v : Value}
    (h : (Expr.binary op left right).evaluateWith inner c = .ok v) : v.Simple := by
  cases op with
  | and | or =>
    rw [Expr.evaluateWith] at h
    obtain ⟨w, -, h⟩ := bind_eq_ok_iff.mp h
    split at h
    all_goals first
      | (cases h; exact Value.simple_literal _)
      | (obtain ⟨u, -, h⟩ := bind_eq_ok_iff.mp h; cases h; exact Value.simple_literal _)
  | _ =>
    rw [Expr.evaluateWith] at h
    · obtain ⟨w, -, h⟩ := bind_eq_ok_iff.mp h
      obtain ⟨u, -, h⟩ := bind_eq_ok_iff.mp h
      exact BinaryOp.simple_of_apply hop h
    all_goals nofun

/-! ## built-in functions -/

namespace Builtin

theorem simple_of_nameOf {b : Builtin} {c : Context} {part : Name → String} {w v : Value}
    (h : nameOf b c part w = .ok v) : v.Simple := by
  unfold nameOf at h
  split at h <;> cases h
  all_goals exact Value.simple_literal _

theorem simple_of_instantOf {b : Builtin} {c : Context} {part : Time.Instant → Time.Instant}
    {w v : Value} (h : instantOf b c part w = .ok v) : v.Simple := by
  obtain ⟨a?, -, h⟩ := bind_eq_ok_iff.mp h
  cases a? with
  | none =>
    cases h
    exact Value.simple_nil
  | some a =>
    dsimp only at h
    split at h <;> cases h
    exact Value.simple_literal _

/-- what a built-in function returns is simple whatever its arguments are -/
theorem simple_of_invoke {b : Builtin} {args : List Value} {c : Context} {v : Value}
    (h : b.invoke args c = .ok v) : v.Simple := by
  unfold invoke at h
  split at h
  all_goals first
    | exact simple_of_nameOf h
    | exact simple_of_instantOf h
    | (cases h; exact Value.simple_literal _)
    | (cases h; exact Value.simple_singleton _)
    | (obtain ⟨_, -, rfl⟩ := map_eq_ok_iff.mp h; exact Value.simple_literal _)
    | cases h

end Builtin

/-! ## predicates -/

theorem sublist_of_filterItems {test : Context → Except EvalError Value} {c : Context} {size : Nat}
    (v : Value) : ∀ (place : Nat) {kept w : Value},
      filterItems test c size place v kept = .ok w →
        ∃ u, List.Sublist u v ∧ w = kept.reverse ++ u := by
  induction v with
  | nil =>
    intro place kept w h
    cases h
    exact ⟨[], List.Sublist.refl _, (List.append_nil _).symm⟩
  | cons i v ih =>
    intro place kept w h
    rw [filterItems] at h
    obtain ⟨x, -, h⟩ := bind_eq_ok_iff.mp h
    obtain ⟨u, hu, rfl⟩ := ih _ h
    cases keeps x place with
    | true => exact ⟨i :: u, hu.cons_cons i, by simp⟩
    | false => exact ⟨u, hu.cons i, rfl⟩

theorem sublist_of_applyPredicates {inner : Evaluator} {c : Context} (predicates : List Expr) :
    ∀ {v w : Value}, applyPredicates inner predicates c v = .ok w → List.Sublist w v := by
  induction predicates with
  | nil =>
    intro v w h
    rw [applyPredicates] at h
    cases h
    exact List.Sublist.refl _
  | cons p ps ih =>
    intro v w h
    rw [applyPredicates] at h
    obtain ⟨kept, hkept, h⟩ := bind_eq_ok_iff.mp h
    obtain ⟨u, hu, rfl⟩ := sublist_of_filterItems v 1 hkept
    exact (ih h).trans hu

/-! ## what is written in the first language -/

/-- an expression that compiles in the first language: with all it admits, as a literal, or as a
selector -/
inductive Compiled.First (e : Compiled) : Prop
  | plain {source dialect} (h : compile source .xpath1 dialect = .ok e)
  | selector {source} (h : compileSelector source .xpath1 = .ok e)

/-- an expression without the constructs of the second language -/
def Expr.First (e : Expr) : Prop := ∀ x ∈ e.parts true, x.construct? = none

theorem Expr.first_of_compile {source : String} {dialect : Dialect} {e : Compiled}
    (h : compile source .xpath1 dialect = .ok e) : e.expr.First := by
  obtain ⟨expr, -, hcheck, rfl⟩ := compile_eq_ok_iff.mp h
  exact List.findSome?_eq_none_iff.mp ((Expr.check_eq_ok_iff.mp hcheck).1 rfl)

/-- anchoring changes how a path begins, and a step without predicates comes first -/
theorem Expr.First.anchored (e : Expr) (h : e.First) : e.anchored.First := by
  unfold Expr.anchored
  split
  · next steps =>
    unfold First parts at h ⊢
    exact List.forall_mem_cons.mpr ⟨rfl, (List.forall_mem_cons.mp h).2⟩
  · next left right =>
    unfold First parts at h ⊢
    obtain ⟨hleft, hright⟩ := List.forall_mem_append.mp (List.forall_mem_cons.mp h).2
    exact List.forall_mem_cons.mpr ⟨rfl, List.forall_mem_append.mpr
      ⟨First.anchored left hleft, First.anchored right hright⟩⟩
  · exact h

theorem Compiled.First.expr {e : Compiled} (h : e.First) : e.expr.First := by
  cases h with
  | plain h => exact Expr.first_of_compile h
  | selector h =>
    obtain ⟨s, hs, h⟩ := bind_eq_ok_iff.mp h
    cases h
    exact (Expr.first_of_compile hs).anchored

def Statement.isYield : Statement → Bool
  | .bind .. => false
  | .yield _ => true

/-- a body of the first language that yields at most one value -/
structure FunctionDecl.First (f : FunctionDecl) : Prop where
  values : ∀ s ∈ f.body, s.value.First
  yields : f.body.countP Statement.isYield ≤ 1

/-- all that is declared is written in the first language -/
def Environment.First (env : Environment) : Prop :=
  ∀ d ∈ env, (∀ name e, d.definitions.get? name = some e → e.First) ∧
    ∀ name f, d.functions.get? name = some f → f.First

/-- all that is bound is simple -/
def Frame.Simple (f : Frame) : Prop := ∀ name v, f.bindings.get? name = some v → v.Simple

structure Scope.First (s : Scope) : Prop where
  frames : ∀ f ∈ s.frames, f.Simple
  environment : s.environment.First

theorem Environment.First.of_definition? {env : Environment} (h : env.First) {name : String}
    {e : Compiled} {env' : Environment} (hdef : env.definition? name = some (e, env')) :
    e.First ∧ env'.First := by
  obtain ⟨hsuffix, d, hd, he⟩ := Environment.of_definition? hdef
  exact ⟨(h d (hsuffix.subset hd)).1 name e he, fun d hd => h d (hsuffix.subset hd)⟩

theorem Environment.First.of_function? {env : Environment} (h : env.First) {name : String}
    {f : FunctionDecl} (hf : env.function? name = some f) : f.First := by
  obtain ⟨d, hd, hf⟩ := List.exists_of_findSome?_eq_some hf
  exact (h d hd).2 name f hf

namespace Frame

theorem simple_new (owner : String) : (new owner).Simple := by
  intro name v h
  rw [new, Table.get?_empty] at h
  cases h

theorem Simple.bind {f : Frame} (h : f.Simple) (name : String) {v : Value} (hv : v.Simple) :
    (f.bind name v).Simple := by
  intro other w hw
  rw [Frame.bind, Table.get?_insert] at hw
  split at hw
  · cases hw
    exact hv
  · exact h other w hw

end Frame

namespace Scope

theorem First.enter {s : Scope} (h : s.First) {f : Frame} (hf : f.Simple) : (s.enter f).First :=
  ⟨List.forall_mem_cons.mpr ⟨hf, h.frames⟩, h.environment⟩

theorem first_ofEnvironment {env : Environment} (h : env.First) : (ofEnvironment env).First :=
  ⟨fun _ hf => absurd hf List.not_mem_nil, h⟩

theorem First.of_value? {s : Scope} (h : s.First) {name : String} {v : Value}
    (hv : s.value? name = some v) : v.Simple := by
  obtain ⟨f, hf, hv⟩ := List.exists_of_findSome?_eq_some hv
  exact h.frames f hf name v hv

end Scope

theorem FunctionDecl.simple_frame (f : FunctionDecl) {args : List Value}
    (h : ∀ v ∈ args, v.Simple) : (f.frame args).Simple := by
  have hfold : ∀ (bound : List (Parameter × Value)) {frame : Frame}, frame.Simple →
      (∀ x ∈ bound, x.2.Simple) →
        (bound.foldl (fun frame x => frame.bind x.1.name x.2) frame).Simple := by
    intro bound
    induction bound with
    | nil => exact fun hframe _ => hframe
    | cons x bound ih =>
      intro frame hframe hbound
      obtain ⟨hx, hbound⟩ := List.forall_mem_cons.mp hbound
      exact ih (hframe.bind _ hx) hbound
  exact hfold _ (Frame.simple_new f.name) fun x hx => h x.2 (List.of_mem_zip hx).2

/-- a call that returns has run the body -/
theorem FunctionDecl.runBody_of_call {inner : Evaluator} (f : FunctionDecl) {args : List Value}
    {c : Context} {v : Value} (h : f.call inner args c = .ok v) :
    ∃ deeper, runBody inner deeper c.scope (f.frame args) [] f.body = .ok v := by
  unfold call at h
  dsimp only at h
  split at h
  · cases h
  · obtain ⟨deeper, -, h⟩ := bind_eq_ok_iff.mp h
    exact ⟨deeper, h⟩

/-! ## definitions -/

/-- definitions of the first language are given simple values -/
def Evaluator.GivesSimple (inner : Evaluator) : Prop :=
  ∀ (e : Expr) (c : Context) (v : Value), e.First → c.scope.First → inner e c = .ok v → v.Simple

section
variable {inner : Evaluator} (hinner : inner.GivesSimple)
include hinner

theorem simple_of_evaluateVariable {name : String} {c : Context} {v : Value} (hc : c.scope.First)
    (h : evaluateVariable inner name c = .ok v) : v.Simple := by
  unfold evaluateVariable Scope.lookup at h
  cases hv : c.scope.value? name with
  | some w =>
    rw [hv] at h
    cases h
    exact hc.of_value? hv
  | none =>
    rw [hv] at h
    cases hdef : c.scope.environment.definition? name with
    | none =>
      rw [hdef] at h
      cases h
    | some x =>
      obtain ⟨e, env⟩ := x
      obtain ⟨he, henv⟩ := hc.environment.of_definition? hdef
      rw [hdef] at h
      obtain ⟨deeper, -, h⟩ := bind_eq_ok_iff.mp h
      exact hinner _ _ _ he.expr (Scope.first_ofEnvironment henv) h

/-- a body adds what it yields to a result that is empty as long as something can be yielded -/
theorem simple_of_runBody {c : Context} {outer : Scope} (houter : outer.First)
    (body : List Statement) :
    ∀ {frame : Frame} {result v : Value}, (∀ s ∈ body, s.value.First) → frame.Simple →
      result.Simple → body.countP Statement.isYield ≤ 1 →
      (body.countP Statement.isYield = 1 → result = []) →
      runBody inner c outer frame result body = .ok v → v.Simple := by
  induction body with
  | nil =>
    intro frame result v _ _ hresult _ _ h
    cases h
    exact hresult
  | cons s body ih =>
    intro frame result v hbody hframe hresult hyields hempty h
    obtain ⟨hs, hrest⟩ := List.forall_mem_cons.mp hbody
    have hscope := houter.enter hframe
    cases s with
    | bind name e =>
      rw [runBody] at h
      obtain ⟨w, hw, h⟩ := bind_eq_ok_iff.mp h
      have hcount : (Statement.bind name e :: body).countP Statement.isYield =
          body.countP Statement.isYield := List.countP_cons_of_neg nofun
      rw [hcount] at hyields hempty
      exact ih hrest (hframe.bind name (hinner _ _ _ hs.expr hscope hw)) hresult hyields hempty h
    | yield e =>
      rw [runBody] at h
      obtain ⟨w, hw, h⟩ := bind_eq_ok_iff.mp h
      have hcount : (Statement.yield e :: body).countP Statement.isYield =
          body.countP Statement.isYield + 1 := List.countP_cons_of_pos rfl
      rw [hcount] at hyields hempty
      have hnone : body.countP Statement.isYield = 0 := by omega
      rw [hempty (by omega), List.nil_append] at h
      exact ih hrest hframe (hinner _ _ _ hs.expr hscope hw) (by omega) (by omega) h

theorem simple_of_callableInvoke {f : Callable} {name : String} {args : List Value} {c : Context}
    {v : Value} (hc : c.scope.First) (hf : Callable.ofName? c.scope name = some f)
    (hargs : ∀ w ∈ args, w.Simple) (h : f.invoke inner args c = .ok v) : v.Simple := by
  cases f with
  | builtin b => exact Builtin.simple_of_invoke h
  | declared f =>
    have hfirst := hc.environment.of_function? (Callable.function?_of_declared hf)
    obtain ⟨deeper, h⟩ := f.runBody_of_call h
    exact simple_of_runBody hinner hc f.body hfirst.values (f.simple_frame hargs)
      Value.simple_nil hfirst.yields (fun _ => rfl) h

end

/-! ## expressions -/

/-- a path gives the literal that it is about or the nodes that its steps lead to -/
theorem Expr.cases_of_evaluateWith_path {inner : Evaluator} {origin : Origin} {steps : List Step}
    {c : Context} {v : Value} (h : (Expr.path origin steps).evaluateWith inner c = .ok v) :
    (∃ a, v = [.atomic a]) ∨ ∃ start ns, origin.evaluateWith inner c = .ok start ∧
      evaluateSteps inner steps c start = .ok ns ∧ v = .ofNodes ns := by
  rw [Expr.evaluateWith_path] at h
  split at h
  · cases h
    exact .inl ⟨_, rfl⟩
  · obtain ⟨start, hstart, h⟩ := bind_eq_ok_iff.mp h
    obtain ⟨ns, hns, h⟩ := bind_eq_ok_iff.mp h
    cases h
    exact .inr ⟨start, ns, hstart, hns, rfl⟩

section
variable {inner : Evaluator}

mutual

theorem Expr.simple_of_evaluateWith (hinner : inner.GivesSimple) (e : Expr) (he : e.First) {c : Context} (hc : c.scope.First)
    {v : Value} (h : e.evaluateWith inner c = .ok v) : v.Simple := by
  unfold Expr.First at he
  match e with
  | .literal _ | .number _ =>
    rw [Expr.evaluateWith] at h
    cases h
    exact Value.simple_literal _
  | .path origin steps =>
    unfold Expr.parts at he
    have horigin := (List.forall_mem_append.mp (List.forall_mem_cons.mp he).2).1
    rcases Expr.cases_of_evaluateWith_path h with ⟨a, rfl⟩ | ⟨start, ns, hstart, hns, rfl⟩
    · exact Value.simple_literal a
    · have hascending := origin.ascending_of_evaluateWith hinner horigin hc hstart
      exact Value.simple_ofNodes (ascending_of_evaluateSteps inner c hascending hns)
  | .var name => exact simple_of_evaluateVariable hinner hc h
  | .call name args =>
    unfold Expr.parts at he
    rw [Expr.evaluateWith] at h
    cases hf : Callable.ofName? c.scope name with
    | none =>
      rw [hf] at h
      cases h
    | some f =>
      rw [hf] at h
      obtain ⟨vs, hvs, h⟩ := bind_eq_ok_iff.mp h
      have hargs := simple_of_evaluateAll hinner args (List.forall_mem_cons.mp he).2 hc hvs
      exact simple_of_callableInvoke hinner hc hf hargs h
  | .binary op left right =>
    unfold Expr.parts at he
    have hop : ∀ r, op ≠ .value r := by
      rintro r rfl
      exact nomatch (List.forall_mem_cons.mp he).1
    exact BinaryOp.simple_of_evaluateWith hop h
  | .negate operand =>
    rw [Expr.evaluateWith] at h
    obtain ⟨w, -, h⟩ := bind_eq_ok_iff.mp h
    obtain ⟨x, -, h⟩ := bind_eq_ok_iff.mp h
    cases h
    exact Value.simple_literal _
  | .filter base predicates =>
    unfold Expr.parts at he
    have hbase := (List.forall_mem_append.mp (List.forall_mem_cons.mp he).2).1
    rw [Expr.evaluateWith] at h
    obtain ⟨w, hw, h⟩ := bind_eq_ok_iff.mp h
    exact (base.simple_of_evaluateWith hinner hbase hc hw).sublist (sublist_of_applyPredicates predicates h)
  | .sequence _ | .conditional .. | .quantified .. | .range .. =>
    unfold Expr.parts at he
    exact nomatch (List.forall_mem_cons.mp he).1

theorem Origin.ascending_of_evaluateWith (hinner : inner.GivesSimple) (o : Origin)
    (ho : ∀ x ∈ o.parts true, x.construct? = none) {c : Context} (hc : c.scope.First)
    {ns : List Node} (h : o.evaluateWith inner c = .ok ns) : Node.Ascending ns := by
  match o with
  | .context =>
    rw [Origin.evaluateWith] at h
    obtain ⟨n, -, rfl⟩ := map_eq_ok_iff.mp h
    exact Node.ascending_singleton n
  | .root =>
    rw [Origin.evaluateWith] at h
    cases h
    exact Node.ascending_singleton _
  | .value e =>
    rw [Origin.evaluateWith] at h
    obtain ⟨v, hv, h⟩ := bind_eq_ok_iff.mp h
    exact (e.simple_of_evaluateWith hinner ho hc hv).ascending_of_nodes h

theorem simple_of_evaluateAll (hinner : inner.GivesSimple) (es : List Expr)
    (hes : ∀ x ∈ Expr.listParts true es, x.construct? = none) {c : Context} (hc : c.scope.First)
    {vs : List Value} (h : evaluateAll inner es c = .ok vs) : ∀ v ∈ vs, v.Simple := by
  match es with
  | [] =>
    rw [evaluateAll] at h
    cases h
    exact fun _ hv => absurd hv List.not_mem_nil
  | e :: es =>
    obtain ⟨he, hes⟩ := List.forall_mem_append.mp hes
    rw [evaluateAll] at h
    obtain ⟨v, hv, h⟩ := bind_eq_ok_iff.mp h
    obtain ⟨vs, hvs, h⟩ := bind_eq_ok_iff.mp h
    cases h
    exact List.forall_mem_cons.mpr
      ⟨e.simple_of_evaluateWith hinner he hc hv, simple_of_evaluateAll hinner es hes hc hvs⟩

end

end

/-! ## levels of definitions -/

theorem givesSimple_evaluateWithin (n : Nat) : Evaluator.GivesSimple (Expr.evaluateWithin n) := by
  induction n with
  | zero =>
    have hnone : Evaluator.GivesSimple fun _ c => .error (.depthExceeded c.maxDepth) :=
      fun _ _ _ _ _ h => nomatch h
    exact fun e _ _ he hc h => e.simple_of_evaluateWith hnone he hc h
  | succ n ih => exact fun e _ _ he hc h => e.simple_of_evaluateWith ih he hc h

/-- **A value of the first language is simple**: nodes in document order, each once, or a single
literal. -/
theorem evaluate_simple {e : Compiled} (he : e.First) {c : Context} (hc : c.scope.First) {v : Value}
    (h : e.evaluate c = .ok v) :
    (∃ ns, Node.Ascending ns ∧ v = .ofNodes ns) ∨ ∃ a, v = [.atomic a] :=
  givesSimple_evaluateWithin c.remaining _ _ _ he.expr hc h

/-- a variable, and a function that picks the second of some nodes and the first of that variable -/
def pickingScope (items picked : Compiled) : Scope :=
  .ofEnvironment [⟨.insert ∅ "items" items, .insert ∅ "pick"
    ⟨"pick", [⟨"nodes", none⟩], none, [.bind "all" items, .yield picked]⟩⟩]

theorem first_pickingScope {items picked : Compiled} (hi : items.First) (hp : picked.First) :
    (pickingScope items picked).First := by
  refine Scope.first_ofEnvironment (List.forall_mem_singleton.mpr ⟨fun name e h => ?_, fun name f h => ?_⟩)
  · rw [Table.get?_insert, Table.get?_empty] at h
    split at h <;> cases h
    exact hi
  · rw [Table.get?_insert, Table.get?_empty] at h
    split at h <;> cases h
    exact ⟨List.forall_mem_cons.mpr ⟨hi, List.forall_mem_singleton.mpr hp⟩, Nat.le_refl 1⟩

/-- the attributes of both items, in document order whatever order they are picked in -/
theorem evaluate_simple_invoice : ∃ items picked e : Compiled,
    compile "//item" .xpath1 .literal = .ok items ∧
    compile "$nodes[2] | $items[1]" .xpath1 .full = .ok picked ∧
    compile "pick($items)/@sku" .xpath1 .full = .ok e ∧
    (pickingScope items picked).First ∧ ∃ v,
      e.evaluate (.new invoice (.node .root) .root (pickingScope items picked) ∅ ⟨0, 0, 0⟩) = .ok v ∧
      v.nodes = .ok [⟨[0, 0], 1⟩, ⟨[1, 0], 1⟩] ∧
      ((∃ ns, Node.Ascending ns ∧ v = .ofNodes ns) ∨ ∃ a, v = [.atomic a]) := by
  have hrun : (compile "//item" .xpath1 .literal).toOption.any (fun items =>
      (compile "$nodes[2] | $items[1]" .xpath1 .full).toOption.any fun picked =>
      (compile "pick($items)/@sku" .xpath1 .full).toOption.any fun e =>
      (e.evaluate (.new invoice (.node .root) .root (pickingScope items picked) ∅ ⟨0, 0, 0⟩)).toOption.any
        fun v => v.nodes.toOption = some [⟨[0, 0], 1⟩, ⟨[1, 0], 1⟩]) = true := by
    decide +kernel
  obtain ⟨items, hitems, hrun⟩ := exists_ok_of_any hrun
  obtain ⟨picked, hpicked, hrun⟩ := exists_ok_of_any hrun
  obtain ⟨e, he, hrun⟩ := exists_ok_of_any hrun
  obtain ⟨v, hv, hnodes⟩ := exists_ok_of_any hrun
  have hscope := first_pickingScope (.plain hitems) (.plain hpicked)
  exact ⟨items, picked, e, hitems, hpicked, he, hscope, v, hv,
    eq_ok_of_toOption (of_decide_eq_true hnodes), evaluate_simple (.plain he) hscope hv⟩

end Rulebook
