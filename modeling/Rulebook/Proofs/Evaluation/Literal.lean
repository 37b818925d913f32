import Rulebook.Proofs.Evaluation.Agreement
import Rulebook.Proofs.Evaluation.Reading

/-!
# Literal expressions

Variables that are declared outside rules are compiled as literals, which should have their values
without a context.  The compiler refuses relative paths and three functions, and it does not look
into predicates.  It lets through the functions that take a missing argument from the context, and
`current()` in predicates.

* `Compiled.Literal`      what the compiler lets through;
* `Compiled.Obeys`        such an expression with no calls but those that are admitted;
* `Compiled.ContextFree`  such an expression without calls that read the context.

`literal_contextFree_iff`: **literals have their values without a context if and only if none of the
calls is admitted that read the context.**
-/

set_option autoImplicit false

namespace Rulebook

/-! ## what is let through -/

/-- an expression that is compiled as a literal, in one of the languages -/
def Compiled.Literal (e : Compiled) : Prop :=
  ∃ source binding, compile source binding .literal = .ok e

/-- a literal whose calls outside predicates are admitted there, and whose calls are all admitted
anywhere -/
structure Compiled.Obeys (outside anywhere : Builtin → Nat → Prop) (e : Compiled) : Prop where
  literal : e.Literal
  outside : ∀ call ∈ e.expr.calls false, outside call.1 call.2
  anywhere : ∀ call ∈ e.expr.calls true, anywhere call.1 call.2

/-- a literal in which no call outside predicates reads the item, and none at all the current one -/
def Compiled.ContextFree (e : Compiled) : Prop :=
  e.Obeys (fun b n => b.reads? n ≠ some .item) fun b n => b.reads? n ≠ some .current

/-- an environment that declares no functions, and variables with a property -/
def Environment.Declares (P : Compiled → Prop) (env : Environment) : Prop :=
  ∀ d ∈ env, (∀ name, d.functions.get? name = none) ∧
    ∀ name e, d.definitions.get? name = some e → P e

/-- all parts outside predicates pass the check -/
theorem Compiled.Literal.contextUse?_eq_none {e : Compiled} (h : e.Literal) :
    ∀ x ∈ e.expr.parts false, x.contextUse? = none := by
  obtain ⟨source, binding, h⟩ := h
  obtain ⟨expr, -, hcheck, rfl⟩ := compile_eq_ok_iff.mp h
  exact List.findSome?_eq_none_iff.mp ((Expr.check_eq_ok_iff.mp hcheck).2 rfl)

/-- what passes the check reads at most the item -/
theorem Expr.eq_item_of_reads? {x : Expr} {b : Builtin} {n : Nat} {part : ContextPart}
    (huse : x.contextUse? = none) (hcall : x.builtinCall? = some (b, n))
    (hreads : b.reads? n = some part) : part = .item := by
  match x with
  | .call name args =>
    obtain ⟨b', hb, hpair⟩ := Option.map_eq_some_iff.mp hcall
    cases hpair
    have hplain : ["position", "last", "current"].contains b.label = false := by
      rw [Builtin.label_of_ofName? hb]
      refine Bool.eq_false_iff.mpr fun hmem => ?_
      rw [contextUse?, if_pos hmem] at huse
      cases huse
    unfold Builtin.reads? at hreads
    split at hreads <;> cases hreads
    all_goals first | rfl | exact absurd hplain (by decide)

/-! ## environments -/

namespace Environment

variable {P Q : Compiled → Prop} {env : Environment}

theorem Declares.mono (h : env.Declares P) (hPQ : ∀ e, P e → Q e) : env.Declares Q :=
  fun d hd => ⟨(h d hd).1, fun name e he => hPQ e ((h d hd).2 name e he)⟩

theorem Declares.function?_eq_none (h : env.Declares P) (name : String) :
    env.function? name = none :=
  List.findSome?_eq_none_iff.mpr fun d hd => (h d hd).1 name

/-- a definition is seen with the levels that it can see -/
theorem Declares.of_definition? (h : env.Declares P) {name : String} {e : Compiled}
    {env' : Environment} (hdef : env.definition? name = some (e, env')) :
    P e ∧ env'.Declares P := by
  obtain ⟨hsuffix, d, hd, he⟩ := Environment.of_definition? hdef
  exact ⟨(h d (hsuffix.subset hd)).2 name e he, fun d hd => h d (hsuffix.subset hd)⟩

end Environment

/-! ## contexts -/

/-- contexts that are the same aside from item, place and current item, in predicates aside from the
current item alone -/
structure Context.SameAside (inside : Bool) (c c' : Context) : Prop where
  document : c.document = c'.document
  root : c.root = c'.root
  scope : c.scope = c'.scope
  namespaces : c.namespaces = c'.namespaces
  depth : c.depth = c'.depth
  maxDepth : c.maxDepth = c'.maxDepth
  now : c.now = c'.now
  environment : c.scope.environment.Declares Compiled.ContextFree
  item : inside = true → c.item = c'.item
  place : inside = true → c.position = c'.position ∧ c.size = c'.size

namespace Context.SameAside

variable {inside : Bool} {c c' : Context}

theorem focus (h : c.SameAside inside c') (i : Item) (position size : Nat) :
    (c.focus i position size).SameAside true (c'.focus i position size) :=
  { document := h.document, root := h.root, scope := h.scope, namespaces := h.namespaces,
    depth := h.depth, maxDepth := h.maxDepth, now := h.now, environment := h.environment,
    item := fun _ => rfl, place := fun _ => ⟨rfl, rfl⟩ }

theorem bindItem (h : c.SameAside inside c') (name : String) (i : Item) :
    (c.bindItem name i).SameAside inside (c'.bindItem name i) where
  document := h.document
  root := h.root
  scope := congrArg (Scope.enter · _) h.scope
  namespaces := h.namespaces
  depth := h.depth
  maxDepth := h.maxDepth
  now := h.now
  environment := h.environment
  item := h.item
  place := h.place

theorem descend (h : c.SameAside inside c') :
    SameDescent (fun _ => False) (Context.SameAside inside) c c' := by
  unfold SameDescent Context.descend
  rw [← h.depth, ← h.maxDepth]
  by_cases hlt : c.depth < c.maxDepth
  · rw [if_pos hlt, if_pos hlt]
    exact .inr ⟨_, _, rfl, rfl, { h with depth := rfl, maxDepth := rfl }⟩
  · rw [if_neg hlt, if_neg hlt]
    exact .inl ⟨_, rfl, .inr rfl⟩

/-- where a definition is evaluated nothing is left of what the contexts differ in -/
theorem withScope (h : c.SameAside inside c') {s : Scope}
    (hs : s.environment.Declares Compiled.ContextFree) :
    (c.withScope s).SameAside false (c'.withScope s) :=
  { h with scope := rfl, environment := hs, item := nofun, place := nofun }

end Context.SameAside

def Agreement.aside : Agreement where
  rel := Context.SameAside
  document h := h.document
  root h := h.root
  scope h := h.scope
  namespaces h := h.namespaces
  focus i position size h := h.focus i position size

/-! ## evaluation -/

/-- context-free definitions have values that only depend on what is shared -/
def Evaluator.IsContextFree (inner : Evaluator) : Prop :=
  ∀ e : Compiled, e.ContextFree → ∀ c c', c.SameAside false c' → inner e.expr c = inner e.expr c'

section
variable {inner : Evaluator} (hinner : Evaluator.IsContextFree inner)
include hinner

theorem evaluateVariable_sameAside {inside : Bool} {c c' : Context} (h : c.SameAside inside c')
    (name : String) : evaluateVariable inner name c = evaluateVariable inner name c' := by
  refine (evaluateVariable_same h.scope h.descend fun e env hdef d d' hsame => ?_).eq_of_never
  obtain ⟨he, henv⟩ := h.environment.of_definition? hdef
  exact .inr (hinner e he _ _ (hsame.withScope henv))

theorem leafSame_aside {inside : Bool} {x : Expr}
    (houtside : inside = false → x.contextUse? = none ∧
      ∀ call, x.builtinCall? = some call → call.1.reads? call.2 ≠ some .item)
    (hanywhere : ∀ call, x.builtinCall? = some call → call.1.reads? call.2 ≠ some .current) :
    Agreement.aside.LeafSame (fun _ => False) inner inner .var inside x := by
  match x with
  | .path .context steps =>
    intro c c' h
    cases inside with
    | true => exact h.item rfl
    | false => cases (houtside rfl).1
  | .var name => exact fun c c' h => .inr (evaluateVariable_sameAside hinner h name)
  | .call name args =>
    intro c c' f vs h hf hlength
    have hname : (Builtin.ofName? name).map Callable.builtin = some f := by
      rw [Callable.ofName?, Scope.function?, h.environment.function?_eq_none] at hf
      exact hf
    obtain ⟨b, hb, rfl⟩ := Option.map_eq_some_iff.mp hname
    have hcall : (Expr.call name args).builtinCall? = some (b, vs.length) := by
      rw [Expr.builtinCall?, hb, hlength]
      rfl
    refine .inr (Builtin.invoke_congr h.document h.now fun part hpart => ?_)
    cases inside with
    | false =>
      obtain ⟨huse, hitem⟩ := houtside rfl
      rw [Expr.eq_item_of_reads? huse hcall hpart] at hpart
      exact absurd hpart (hitem _ hcall)
    | true =>
      cases part with
      | item => exact h.item rfl
      | place => exact h.place rfl
      | current => exact absurd hpart (hanywhere _ hcall)
  | .quantified _ clauses _ => exact fun clause _ i c c' h => h.bindItem clause.name i
  | .literal _ | .number _ | .path .root _ | .path (.value _) _ | .binary .. | .negate _
  | .filter .. | .sequence _ | .conditional .. | .range .. => exact trivial

theorem evaluateWith_sameAside {e : Compiled} (he : e.ContextFree) {c c' : Context}
    (h : c.SameAside false c') : e.expr.evaluateWith inner c = e.expr.evaluateWith inner c' := by
  refine (Expr.evaluateWith_same (A := .aside) e.expr ?_ h).eq_of_never
  constructor
  · intro x hx
    exact leafSame_aside hinner
      (fun _ => ⟨he.literal.contextUse?_eq_none x hx,
        fun call h => he.outside call (Expr.mem_calls hx h)⟩)
      fun call h =>
        he.anywhere call (Expr.mem_calls (e.expr.parts_false_sublist.subset hx) h)
  · intro x hx
    exact leafSame_aside hinner nofun fun call h => he.anywhere call (Expr.mem_calls hx h)

end

/-- one level of definitions more at a time -/
theorem isContextFree_evaluateWithin (n : Nat) :
    Evaluator.IsContextFree (Expr.evaluateWithin n) := by
  induction n with
  | zero =>
    intro e he c c' h
    refine evaluateWith_sameAside (fun e he c c' h => ?_) he h
    exact congrArg (fun m => Except.error (EvalError.depthExceeded m)) h.maxDepth
  | succ n ih => exact fun e he c c' h => evaluateWith_sameAside ih he h

/-- context-free expressions have their values whatever item, place and current item are -/
theorem Compiled.ContextFree.evaluate_eq {e : Compiled} (he : e.ContextFree) {c : Context}
    (henv : c.scope.environment.Declares Compiled.ContextFree) (i k : Item) (position size : Nat) :
    e.evaluate { c with item := i, current := k, position, size } = e.evaluate c :=
  isContextFree_evaluateWithin c.remaining e he _ c
    { document := rfl, root := rfl, scope := rfl, namespaces := rfl, depth := rfl, maxDepth := rfl,
      now := rfl, environment := henv, item := nofun, place := nofun }

/-! ## what is let through and reads the context -/

theorem exists_literal_of_any {P : Compiled → Bool} (source : String)
    (h : (compile source .xpath1 .literal).toOption.any P = true) :
    ∃ e, compile source .xpath1 .literal = .ok e ∧ P e = true := by
  cases hc : compile source .xpath1 .literal with
  | error x =>
    rw [hc] at h
    cases h
  | ok e =>
    rw [hc] at h
    exact ⟨e, rfl, h⟩

/-- the calls of an expression, those outside predicates and all of them, are as given, and its
value is another if a part of the context is -/
def Compiled.leaks (part : ContextPart) (outside anywhere : List (Builtin × Nat)) (e : Compiled) :
    Bool :=
  decide (e.expr.calls false = outside) && decide (e.expr.calls true = anywhere) &&
    decide ((e.evaluate (part.replaced wholeInvoice secondLiteral)).toOption.map
      (Value.text invoice) ≠ (e.evaluate wholeInvoice).toOption.map (Value.text invoice))

/-- a literal with the given calls has another value if a part of the context is another -/
structure Compiled.Leaks (part : ContextPart) (outside anywhere : List (Builtin × Nat))
    (e : Compiled) : Prop where
  literal : e.Literal
  outside : e.expr.calls false = outside
  anywhere : e.expr.calls true = anywhere
  value : e.evaluate (part.replaced wholeInvoice secondLiteral) ≠ e.evaluate wholeInvoice

theorem compile_leaks {part : ContextPart} {outside anywhere : List (Builtin × Nat)}
    (source : String) (h : (compile source .xpath1 .literal).toOption.any
      (Compiled.leaks part outside anywhere) = true) :
    ∃ e, compile source .xpath1 .literal = .ok e ∧ e.Leaks part outside anywhere := by
  obtain ⟨e, he, hleaks⟩ := exists_literal_of_any source h
  simp only [Compiled.leaks, Bool.and_eq_true, decide_eq_true_eq] at hleaks
  obtain ⟨⟨houtside, hanywhere⟩, hvalue⟩ := hleaks
  exact ⟨e, he, ⟨source, _, he⟩, houtside, hanywhere, ne_of_text_ne hvalue⟩

theorem exists_leaks {part : ContextPart} {outside anywhere : List (Builtin × Nat)}
    (source : String) (h : (compile source .xpath1 .literal).toOption.any
      (Compiled.leaks part outside anywhere) = true) :
    ∃ e : Compiled, e.Leaks part outside anywhere := by
  obtain ⟨e, -, hleaks⟩ := compile_leaks source h
  exact ⟨e, hleaks⟩

/-- the compiler lets through every function that reads the item -/
theorem Builtin.exists_leaks_item {b : Builtin} {n : Nat} (h : b.reads? n = some .item) :
    ∃ e : Compiled, e.Leaks .item [(b, n)] [(b, n)] := by
  unfold reads? at h
  split at h <;> cases h
  · exact exists_leaks "name()" (by decide +kernel)
  · exact exists_leaks "local-name()" (by decide +kernel)
  · exact exists_leaks "namespace-uri()" (by decide +kernel)
  · exact exists_leaks "string()" (by decide +kernel)
  · exact exists_leaks "number()" (by decide +kernel)
  · exact exists_leaks "string-length()" (by decide +kernel)
  · exact exists_leaks "normalize-space()" (by decide +kernel)
  · exact exists_leaks "lang('en')" (by decide +kernel)

theorem Builtin.exists_leaks_current {b : Builtin} {n : Nat} (h : b.reads? n = some .current) :
    ∃ e : Compiled, e.Leaks .current [] [(b, n)] := by
  unfold reads? at h
  split at h <;> cases h
  exact exists_leaks "//item[current() = '1']" (by decide +kernel)

/-! ## what should be let through -/

section
variable {outside anywhere : Builtin → Nat → Prop}

theorem Compiled.Obeys.contextFree {e : Compiled} (h : e.Obeys outside anywhere)
    (hitem : ∀ b n, outside b n → anywhere b n → b.reads? n ≠ some .item)
    (hcurrent : ∀ b n, anywhere b n → b.reads? n ≠ some .current) : e.ContextFree where
  literal := h.literal
  outside call hcall := hitem _ _ (h.outside call hcall)
    (h.anywhere call ((e.expr.parts_false_sublist.filterMap _).subset hcall))
  anywhere call hcall := hcurrent _ _ (h.anywhere call hcall)

theorem Compiled.Leaks.obeys {part : ContextPart} {shallow deep : List (Builtin × Nat)}
    {e : Compiled} (h : e.Leaks part shallow deep)
    (hshallow : ∀ call ∈ shallow, outside call.1 call.2)
    (hdeep : ∀ call ∈ deep, anywhere call.1 call.2) : e.Obeys outside anywhere where
  literal := h.literal
  outside := by
    rw [h.outside]
    exact hshallow
  anywhere := by
    rw [h.anywhere]
    exact hdeep

end

/-- **Literals with none but admitted calls have their values without a context if and only if** no
call is admitted outside predicates that reads the item, and none anywhere that reads the current
one. -/
theorem literal_contextFree_iff (outside anywhere : Builtin → Nat → Prop) :
    (∀ (e : Compiled) (c : Context) (i k : Item) (position size : Nat),
      e.Obeys outside anywhere → c.scope.environment.Declares (Compiled.Obeys outside anywhere) →
        e.evaluate { c with item := i, current := k, position, size } = e.evaluate c) ↔
      (∀ b n, outside b n → anywhere b n → b.reads? n ≠ some .item) ∧
        ∀ b n, anywhere b n → b.reads? n ≠ some .current := by
  constructor
  · intro h
    have hempty : wholeInvoice.scope.environment.Declares (Compiled.Obeys outside anywhere) :=
      fun _ hd => absurd hd List.not_mem_nil
    constructor
    · intro b n houtside hanywhere hreads
      obtain ⟨e, he⟩ := Builtin.exists_leaks_item hreads
      have hobeys := he.obeys (List.forall_mem_singleton.mpr houtside)
        (List.forall_mem_singleton.mpr hanywhere)
      exact he.value (h e wholeInvoice secondLiteral.item _ _ _ hobeys hempty)
    · intro b n hanywhere hreads
      obtain ⟨e, he⟩ := Builtin.exists_leaks_current hreads
      have hobeys : e.Obeys outside anywhere :=
        he.obeys (fun _ hcall => absurd hcall List.not_mem_nil)
          (List.forall_mem_singleton.mpr hanywhere)
      exact he.value (h e wholeInvoice _ secondLiteral.current _ _ hobeys hempty)
  · rintro ⟨hitem, hcurrent⟩ e c i k position size he henv
    exact (he.contextFree hitem hcurrent).evaluate_eq
      (henv.mono fun e he => he.contextFree hitem hcurrent) i k position size

/-- the text of the item is read by a literal -/
theorem literal_contextFree_string :
    ∃ e, compile "string()" .xpath1 .literal = .ok e ∧
      e.evaluate { wholeInvoice with item := .atomic (.text "1") } ≠ e.evaluate wholeInvoice := by
  have hleaks : (compile "string()" .xpath1 .literal).toOption.any
      (Compiled.leaks .item [(.string, 0)] [(.string, 0)]) = true := by
    decide +kernel
  obtain ⟨e, he, h⟩ := compile_leaks "string()" hleaks
  exact ⟨e, he, h.value⟩

end Rulebook
