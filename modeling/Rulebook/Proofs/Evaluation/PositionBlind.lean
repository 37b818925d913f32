import Rulebook.Proofs.Evaluation.Agreement
import Rulebook.Proofs.Evaluation.Reading
import Rulebook.Proofs.Evaluation.Steps

/-!
# Predicates that do not look at positions

A predicate is asked of each item at its place among the others.  One that does not look at the
place, and gives no number that the place is compared with, says the same of an item wherever this
stands.

* `Expr.positionBlind`  nothing outside predicates looks at the place;
* `Expr.Decides`        position-blind, and no number about any of some items;
* `holdAll`             what such predicates say of an item, one after the other.

`applyPredicates_of_decides`: **predicates that decide keep the items of which all of them hold, and
fail if and only if they fail about an item.**  So by `applyPredicates_and` two of them may be
joined to one.
-/

set_option autoImplicit false

namespace Rulebook

/-! ## expressions -/

/-- not a variable, nor a call of a declared function, of `position` or of `last` -/
def Expr.placeless (s : Scope) : Expr → Bool
  | .var _ => false
  | .call name _ =>
    (s.function? name).isNone && !(["position", "last"].contains (plainFunctionName name))
  | _ => true

/-- predicates inside have places of their own, and anything may stand in them -/
def Expr.positionBlind (s : Scope) (e : Expr) : Bool := (e.parts false).all (·.placeless s)

/-! ## contexts -/

/-- contexts that are the same aside from the place of their item, in predicates altogether -/
structure Context.Moved (s : Scope) (inside : Bool) (c c' : Context) : Prop where
  functions : c.scope.function? = s.function?
  elsewhere : ∃ position size, c' = { c with position, size }
  same : inside = true → c' = c

namespace Context.Moved

variable {s : Scope} {inside : Bool} {c c' : Context}

theorem focus (h : c.Moved s inside c') (i : Item) (position size : Nat) :
    (c.focus i position size).Moved s true (c'.focus i position size) := by
  obtain ⟨_, _, rfl⟩ := h.elsewhere
  exact ⟨h.functions, ⟨position, size, rfl⟩, fun _ => rfl⟩

theorem bindItem (h : c.Moved s inside c') (name : String) (i : Item) :
    (c.bindItem name i).Moved s inside (c'.bindItem name i) := by
  refine ⟨h.functions, ?_, fun hinside => ?_⟩
  · obtain ⟨position, size, rfl⟩ := h.elsewhere
    exact ⟨position, size, rfl⟩
  · rw [h.same hinside]

end Context.Moved

def Agreement.moved (s : Scope) : Agreement where
  rel := Context.Moved s
  document h := by obtain ⟨_, _, rfl⟩ := h.elsewhere; rfl
  root h := by obtain ⟨_, _, rfl⟩ := h.elsewhere; rfl
  scope h := by obtain ⟨_, _, rfl⟩ := h.elsewhere; rfl
  namespaces h := by obtain ⟨_, _, rfl⟩ := h.elsewhere; rfl
  focus i position size h := h.focus i position size

/-! ## the place does not matter -/

section
variable {inner : Evaluator} {c : Context}

theorem Builtin.reads?_ne_place {b : Builtin} (h : ¬["position", "last"].contains b.label)
    (n : Nat) : b.reads? n ≠ some .place := by
  intro hreads
  unfold reads? at hreads
  split at hreads <;> cases hreads
  all_goals exact h rfl

theorem leafSame_moved {s : Scope} {inside : Bool} {x : Expr}
    (h : inside = false → x.placeless s = true) :
    (Agreement.moved s).LeafSame (fun _ => False) inner inner .var inside x := by
  match x with
  | .path .context _ =>
    intro c c' hc
    obtain ⟨_, _, rfl⟩ := hc.elsewhere
    rfl
  | .var name =>
    intro c c' hc
    cases inside with
    | false => cases h rfl
    | true =>
      rw [hc.same rfl]
      exact .refl _
  | .call name args =>
    intro c c' f vs hc hf _
    cases inside with
    | true =>
      rw [hc.same rfl]
      exact .refl _
    | false =>
      obtain ⟨hdeclared, hname⟩ := Bool.and_eq_true_iff.mp (h rfl)
      rw [Callable.ofName?, hc.functions, Option.isNone_iff_eq_none.mp hdeclared] at hf
      obtain ⟨b, hb, rfl⟩ := Option.map_eq_some_iff.mp hf
      have hlabel : ¬["position", "last"].contains b.label := by
        rw [Builtin.label_of_ofName? hb]
        simpa using hname
      obtain ⟨position, size, rfl⟩ := hc.elsewhere
      show SameUnless _ (b.invoke vs c) (b.invoke vs { c with position, size })
      refine .inr (Builtin.invoke_congr ?_ ?_ fun part hpart => ?_)
      · rfl
      · rfl
      · cases part with
        | item | current => exact rfl
        | place => exact absurd hpart (Builtin.reads?_ne_place hlabel _)
  | .quantified _ clauses _ => exact fun clause _ i c c' hc => hc.bindItem clause.name i
  | .literal _ | .number _ | .path .root _ | .path (.value _) _ | .binary .. | .negate _
  | .filter .. | .sequence _ | .conditional .. | .range .. => exact trivial

/-- a position-blind expression has its value at every place -/
theorem Expr.evaluateWith_moved {e : Expr} (he : e.positionBlind c.scope = true)
    (position size : Nat) :
    e.evaluateWith inner { c with position, size } = e.evaluateWith inner c := by
  have hleaves : (Agreement.moved c.scope).LeavesSame (fun _ => False) inner inner .var false
      (e.parts false) (e.parts true) :=
    ⟨fun x hx => leafSame_moved fun _ => List.all_eq_true.mp he x hx,
      fun x _ => leafSame_moved nofun⟩
  exact (e.evaluateWith_same hleaves ⟨rfl, ⟨position, size, rfl⟩, nofun⟩).eq_of_never.symm

end

/-! ## conditions -/

def Value.isNumber : Value → Bool
  | [.atomic (.number _)] => true
  | _ => false

theorem keeps_of_not_isNumber {v : Value} (h : v.isNumber = false) (position : Nat) :
    keeps v position = v.truth := by
  unfold keeps
  split
  · cases h
  · rfl

/-- decides about each of some items: does not look at its place, and gives no number that is
compared with it -/
structure Expr.Decides (inner : Evaluator) (c : Context) (v : Value) (p : Expr) : Prop where
  blind : p.positionBlind c.scope = true
  condition : ∀ i ∈ v, (p.evaluateWith inner (c.focus i 1 1)).toOption.any Value.isNumber = false

instance (inner : Evaluator) (c : Context) (v : Value) (p : Expr) :
    Decidable (p.Decides inner c v) :=
  decidable_of_iff (p.positionBlind c.scope = true ∧
      ∀ i ∈ v, (p.evaluateWith inner (c.focus i 1 1)).toOption.any Value.isNumber = false)
    ⟨fun h => ⟨h.1, h.2⟩, fun h => ⟨h.blind, h.condition⟩⟩

/-- what a predicate says of an item that stands alone -/
def Expr.holdsFor (inner : Evaluator) (c : Context) (p : Expr) (i : Item) :
    Except EvalError Bool :=
  (p.evaluateWith inner (c.focus i 1 1)).map Value.truth

section
variable {inner : Evaluator} {c : Context} {p : Expr}

theorem filterItems_of_decides {v : Value} (h : p.Decides inner c v) (size position : Nat)
    (kept : Value) : filterItems (p.evaluateWith inner) c size position v kept =
      (List.filterAuxM (p.holdsFor inner c) v kept).map List.reverse := by
  induction v generalizing position kept with
  | nil => rfl
  | cons i v ih =>
    have hplace : p.evaluateWith inner (c.focus i position size) =
        p.evaluateWith inner (c.focus i 1 1) :=
      Expr.evaluateWith_moved (c := c.focus i 1 1) h.blind position size
    have hi := h.condition i List.mem_cons_self
    have hrest : p.Decides inner c v :=
      ⟨h.blind, fun j hj => h.condition j (List.mem_cons_of_mem i hj)⟩
    rw [filterItems, List.filterAuxM, hplace, Expr.holdsFor]
    cases hp : p.evaluateWith inner (c.focus i 1 1) with
    | error e => rfl
    | ok w =>
      rw [hp] at hi
      show filterItems (p.evaluateWith inner) c size (position + 1) v
          (if keeps w position then i :: kept else kept) =
        (List.filterAuxM (p.holdsFor inner c) v (cond w.truth (i :: kept) kept)).map List.reverse
      rw [keeps_of_not_isNumber hi, ih hrest]
      cases w.truth <;> rfl

theorem applyPredicates_cons_of_decides {v : Value} (h : p.Decides inner c v) (ps : List Expr) :
    applyPredicates inner (p :: ps) c v =
      v.filterM (p.holdsFor inner c) >>= applyPredicates inner ps c := by
  rw [applyPredicates, filterItems_of_decides h, List.filterM]
  exact congrArg (· >>= applyPredicates inner ps c) (bind_ok_eq_map _ _).symm

end

/-! ## filters that can fail -/

/-- the condition holds, and does not fail -/
def passes {α : Type} (P : α → Except EvalError Bool) (a : α) : Bool := (P a).toOption.getD false

/-- a second condition, asked where the first one holds -/
def andThen {α : Type} (P Q : α → Except EvalError Bool) (a : α) : Except EvalError Bool := do
  if ← P a then Q a else return false

section
variable {α : Type} {P Q : α → Except EvalError Bool}

theorem passes_of_ok {a : α} {b : Bool} (h : P a = .ok b) : passes P a = b := by
  unfold passes
  rw [h]
  rfl

theorem filterAuxM_eq_ok_iff {as kept out : List α} :
    List.filterAuxM P as kept = .ok out ↔
      (∀ a ∈ as, ∃ b, P a = .ok b) ∧ out = (as.filter (passes P)).reverse ++ kept := by
  induction as generalizing kept with
  | nil =>
    show Except.ok kept = .ok out ↔ _
    simp [eq_comm]
  | cons a as ih =>
    rw [List.forall_mem_cons, List.filterAuxM]
    cases ha : P a with
    | error e => exact ⟨nofun, nofun⟩
    | ok b =>
      have hok : ∃ b', (Except.ok b : Except EvalError Bool) = .ok b' := ⟨b, rfl⟩
      show List.filterAuxM P as (cond b (a :: kept) kept) = .ok out ↔ _
      rw [ih, and_iff_right hok, List.filter_cons, passes_of_ok ha]
      cases b <;> simp

/-- a filter gives those of which the condition holds, unless it fails about one -/
theorem filterM_eq_ok_iff {as kept : List α} :
    as.filterM P = .ok kept ↔ (∀ a ∈ as, ∃ b, P a = .ok b) ∧ kept = as.filter (passes P) := by
  rw [List.filterM, bind_eq_ok_iff]
  simp only [filterAuxM_eq_ok_iff, List.append_nil]
  constructor
  · rintro ⟨_, ⟨hall, rfl⟩, hkept⟩
    cases hkept
    exact ⟨hall, List.reverse_reverse _⟩
  · rintro ⟨hall, rfl⟩
    exact ⟨_, ⟨hall, rfl⟩, congrArg Except.ok (List.reverse_reverse _)⟩

theorem andThen_of_error {a : α} {e : EvalError} (h : P a = .error e) :
    andThen P Q a = .error e := by
  unfold andThen
  rw [h]
  rfl

theorem andThen_of_ok {a : α} {b : Bool} (h : P a = .ok b) :
    andThen P Q a = if b then Q a else .ok false := by
  unfold andThen
  rw [h]
  rfl

theorem andThen_assoc (P Q R : α → Except EvalError Bool) :
    andThen (andThen P Q) R = andThen P (andThen Q R) := by
  funext a
  unfold andThen
  cases P a with
  | error e => rfl
  | ok b => cases b <;> rfl

theorem andThen_ok_iff {a : α} : (∃ b, andThen P Q a = .ok b) ↔
    (∃ b, P a = .ok b) ∧ (passes P a = true → ∃ b, Q a = .ok b) := by
  cases h : P a with
  | error e =>
    rw [andThen_of_error h]
    exact ⟨nofun, nofun⟩
  | ok b =>
    rw [andThen_of_ok h, passes_of_ok h]
    cases b <;> simp

theorem passes_andThen (a : α) : passes (andThen P Q) a = (passes Q a && passes P a) := by
  unfold passes
  cases h : P a with
  | error e =>
    rw [andThen_of_error h]
    exact (Bool.and_false _).symm
  | ok b =>
    rw [andThen_of_ok h]
    cases b with
    | false => exact (Bool.and_false _).symm
    | true => exact (Bool.and_true _).symm

/-- filters one after the other are one filter, though what fails may fail in another order -/
theorem filterM_andThen (as : List α) :
    (as.filterM P >>= List.filterM Q).toOption = (as.filterM (andThen P Q)).toOption := by
  refine toOption_eq_iff.mpr fun kept => ?_
  have hfilter : as.filter (passes (andThen P Q)) = (as.filter (passes P)).filter (passes Q) := by
    rw [List.filter_filter]
    exact List.filter_congr fun a _ => passes_andThen a
  rw [bind_eq_ok_iff, filterM_eq_ok_iff, hfilter]
  simp only [filterM_eq_ok_iff, andThen_ok_iff]
  constructor
  · rintro ⟨_, ⟨hP, rfl⟩, hQ, rfl⟩
    exact ⟨fun a ha => ⟨hP a ha, fun hpass => hQ a (List.mem_filter.mpr ⟨ha, hpass⟩)⟩, rfl⟩
  · rintro ⟨hall, rfl⟩
    refine ⟨_, ⟨fun a ha => (hall a ha).1, rfl⟩, fun a ha => ?_, rfl⟩
    obtain ⟨ha, hpass⟩ := List.mem_filter.mp ha
    exact (hall a ha).2 hpass

end

/-! ## predicates that decide -/

section
variable (inner : Evaluator) (c : Context)

/-- what predicates say of an item that stands alone, each asked where those before it hold -/
def holdAll (ps : List Expr) : Item → Except EvalError Bool :=
  ps.foldr (fun p => andThen (p.holdsFor inner c)) fun _ => .ok true

variable {inner c} {p q : Expr} {ps : List Expr} {v : Value}

theorem Expr.Decides.mono {w : Value} (h : p.Decides inner c v) (hw : w ⊆ v) :
    p.Decides inner c w :=
  ⟨h.blind, fun i hi => h.condition i (hw hi)⟩

/-- **Predicates that decide keep the items of which all of them hold**, and fail if and only if
they fail about an item. -/
theorem applyPredicates_of_decides (h : ∀ p ∈ ps, p.Decides inner c v) :
    (applyPredicates inner ps c v).toOption = (v.filterM (holdAll inner c ps)).toOption := by
  induction ps generalizing v with
  | nil =>
    have hall : v.filterM (holdAll inner c []) = .ok v :=
      filterM_eq_ok_iff.mpr ⟨fun _ _ => ⟨true, rfl⟩, (List.filter_eq_self.mpr fun _ _ => rfl).symm⟩
    rw [applyPredicates, hall]
  | cons p ps ih =>
    obtain ⟨hp, hps⟩ := List.forall_mem_cons.mp h
    have hrest : (v.filterM (p.holdsFor inner c) >>= applyPredicates inner ps c).toOption =
        (v.filterM (p.holdsFor inner c) >>= List.filterM (holdAll inner c ps)).toOption := by
      cases hkept : v.filterM (p.holdsFor inner c) with
      | error e => rfl
      | ok kept =>
        -- what the first predicate keeps is among the items
        obtain ⟨-, rfl⟩ := filterM_eq_ok_iff.mp hkept
        exact ih fun q hq => (hps q hq).mono fun i hi => (List.mem_filter.mp hi).1
    rw [applyPredicates_cons_of_decides hp, hrest]
    exact filterM_andThen v

/-! ## conjunctions -/

theorem Expr.positionBlind_and (s : Scope) (p q : Expr) :
    (Expr.binary .and p q).positionBlind s = (p.positionBlind s && q.positionBlind s) := by
  unfold positionBlind
  rw [Expr.parts, List.all_cons, List.all_append]
  rfl

theorem Expr.evaluateWith_and (p q : Expr) (i : Item) :
    (Expr.binary .and p q).evaluateWith inner (c.focus i 1 1) =
      (andThen (p.holdsFor inner c) (q.holdsFor inner c) i).map .ofBool := by
  rw [Expr.evaluateWith]
  cases hp : p.evaluateWith inner (c.focus i 1 1) with
  | error e =>
    rw [andThen_of_error (e := e) (by rw [holdsFor, hp]; rfl)]
    rfl
  | ok w =>
    rw [andThen_of_ok (b := w.truth) (by rw [holdsFor, hp]; rfl)]
    show (if w.truth then _ else _) = _
    unfold holdsFor
    cases w.truth with
    | false => rfl
    | true => cases q.evaluateWith inner (c.focus i 1 1) <;> rfl

theorem Expr.holdsFor_and (p q : Expr) : (Expr.binary .and p q).holdsFor inner c =
    andThen (p.holdsFor inner c) (q.holdsFor inner c) := by
  funext i
  rw [holdsFor, evaluateWith_and]
  cases andThen (p.holdsFor inner c) (q.holdsFor inner c) i <;> rfl

theorem Expr.Decides.and (hp : p.Decides inner c v) (hq : q.Decides inner c v) :
    (Expr.binary .and p q).Decides inner c v where
  blind := by
    rw [positionBlind_and, hp.blind, hq.blind]
    rfl
  condition i _ := by
    rw [evaluateWith_and]
    cases andThen (p.holdsFor inner c) (q.holdsFor inner c) i <;> rfl

/-- **Two predicates that decide keep what their conjunction keeps**, in the same order, and fail
about some items if and only if it does. -/
theorem applyPredicates_and (hp : p.Decides inner c v) (hq : q.Decides inner c v) :
    (applyPredicates inner [p, q] c v).toOption =
      (applyPredicates inner [.binary .and p q] c v).toOption := by
  have hboth : ∀ r ∈ [p, q], r.Decides inner c v := by
    simp only [List.forall_mem_cons]
    exact ⟨hp, hq, fun _ h => absurd h List.not_mem_nil⟩
  have hand : ∀ r ∈ [Expr.binary .and p q], r.Decides inner c v :=
    List.forall_mem_singleton.mpr (hp.and hq)
  have hsame : holdAll inner c [.binary .and p q] = holdAll inner c [p, q] := by
    show andThen ((Expr.binary .and p q).holdsFor inner c) _ =
      andThen (p.holdsFor inner c) (andThen _ _)
    rw [Expr.holdsFor_and, andThen_assoc]
  rw [applyPredicates_of_decides hboth, applyPredicates_of_decides hand, hsame]

/-- the elements of the invoice that another one follows and whose quantity is positive; the place
that is asked for is one among those that follow -/
theorem applyPredicates_and_invoice :
    let inner := Expr.evaluateWithin defaultMaxDepth
    let p : Expr := .path .context [⟨.followingSibling, .any, [.call "last" []]⟩]
    let q : Expr :=
      .binary (.general .gt) (.path .context [⟨.attribute, .named none "qty", []⟩]) (.number 0)
    let elements : Value := .ofNodes [⟨[0, 0], 0⟩, ⟨[1, 0], 0⟩, ⟨[3, 0], 0⟩]
    p.Decides inner wholeInvoice elements ∧ q.Decides inner wholeInvoice elements ∧
      (applyPredicates inner [p, q] wholeInvoice elements).toOption =
        (applyPredicates inner [.binary .and p q] wholeInvoice elements).toOption ∧
      (applyPredicates inner [p, q] wholeInvoice elements).toOption.map (·.filterMap Item.node?) =
        some [⟨[0, 0], 0⟩] := by
  intro inner p q elements
  have hp : p.Decides inner wholeInvoice elements := by decide +kernel
  have hq : q.Decides inner wholeInvoice elements := by decide +kernel
  exact ⟨hp, hq, applyPredicates_and hp hq, by decide +kernel⟩

end

end Rulebook
