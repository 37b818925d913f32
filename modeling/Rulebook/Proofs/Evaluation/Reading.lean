import Rulebook.Document.Invoice
import Rulebook.Eval.Evaluate

/-!
# What calls read of the context

A function that lacks an argument may take it from the context.

* `ContextPart`     what a place in an expression can have of its own;
* `Builtin.reads?`  the part that a call with so many arguments reads;
* `Expr.calls`      the calls in an expression.

`Builtin.reads?_eq_some_iff`: **a call reads a part if and only if its value can depend on it.**
-/

set_option autoImplicit false

namespace Rulebook

inductive ContextPart where
  | item
  /-- the position of the item among others, and how many these are -/
  | place
  | current
deriving DecidableEq, Repr

namespace ContextPart

/-- two contexts have the part in common -/
def Same : ContextPart → Context → Context → Prop
  | item, c, c' => c.item = c'.item
  | place, c, c' => c.position = c'.position ∧ c.size = c'.size
  | current, c, c' => c.current = c'.current

/-- a context with the part as another one has it -/
def replaced : ContextPart → Context → Context → Context
  | item, c, other => { c with item := other.item }
  | place, c, other => { c with position := other.position, size := other.size }
  | current, c, other => { c with current := other.current }

theorem same_replaced {part part' : ContextPart} (h : part' ≠ part) (c other : Context) :
    part'.Same (part.replaced c other) c := by
  cases part <;> cases part' <;> first | exact absurd rfl h | exact rfl | exact ⟨rfl, rfl⟩

end ContextPart

/-- the whole of the invoice -/
def wholeInvoice : Context := .new invoice (.node .root) .root (.ofEnvironment []) ∅ ⟨0, 0, 0⟩

/-- a literal, the second of two -/
def secondLiteral : Context :=
  { wholeInvoice with
    item := .atomic (.text "1"), current := .atomic (.text "1"), position := 2, size := 2 }

theorem ne_of_text_ne {x y : Except EvalError Value}
    (h : x.toOption.map (Value.text invoice) ≠ y.toOption.map (Value.text invoice)) : x ≠ y :=
  fun heq => h (by rw [heq])

namespace Builtin

theorem label_of_ofName? {name : String} {b : Builtin} (h : ofName? name = some b) :
    b.label = plainFunctionName name := by
  simpa using List.find?_some h

def reads? : Builtin → Nat → Option ContextPart
  | position, 0 | last, 0 => some .place
  | current, 0 => some .current
  | name, 0 | localName, 0 | namespaceUri, 0 | string, 0 | .number, 0 | stringLength, 0
  | normalizeSpace, 0 | lang, 1 => some .item
  | _, _ => none

/-! ## what is not read does not matter -/

section
variable {c c' : Context} (hd : c.document = c'.document)
include hd

theorem namePart_congr : namePart c = namePart c' := by
  funext part n
  unfold namePart
  rw [hd]

theorem nameOf_congr (b : Builtin) (part : Name → String) : nameOf b c part = nameOf b c' part := by
  funext v
  unfold nameOf
  rw [namePart_congr hd]

theorem instantOf_congr (b : Builtin) (part : Time.Instant → Time.Instant) :
    instantOf b c part = instantOf b c' part := by
  funext v
  unfold instantOf
  rw [hd]

/-- a call looks at the document, the time and the part that it reads -/
theorem invoke_congr {b : Builtin} {args : List Value} (hn : c.now = c'.now)
    (h : ∀ part, b.reads? args.length = some part → part.Same c c') :
    b.invoke args c = b.invoke args c' := by
  have hitem (hr : b.reads? args.length = some .item) : c.item = c'.item := h _ hr
  have hnode (hr : b.reads? args.length = some .item) : c.node = c'.node := by
    rw [c.node_eq, c'.node_eq, hitem hr]
  have hcurrent (hr : b.reads? args.length = some .current) : c.current = c'.current := h _ hr
  have hplace (hr : b.reads? args.length = some .place) :
      c.position = c'.position ∧ c.size = c'.size := h _ hr
  unfold invoke
  rw [hd, hn, namePart_congr hd]
  split
  all_goals first
    | rw [hitem rfl]
    | rw [hnode rfl]
    | rw [hcurrent rfl]
    | rw [(hplace rfl).1]
    | rw [(hplace rfl).2]
    | rw [nameOf_congr hd]
    | rw [instantOf_congr hd]
    | rfl

end

/-! ## what is read matters -/

theorem exists_invoke_ne {b : Builtin} {n : Nat} {part : ContextPart}
    (h : b.reads? n = some part) :
    ∃ args : List Value, args.length = n ∧
      b.invoke args (part.replaced wholeInvoice secondLiteral) ≠ b.invoke args wholeInvoice := by
  unfold reads? at h
  split at h
  case h_12 => cases h
  case h_11 =>
    cases h
    exact ⟨[.ofText "en"], rfl, ne_of_text_ne (by decide +kernel)⟩
  all_goals
    cases h
    exact ⟨[], rfl, ne_of_text_ne (by decide +kernel)⟩

/-- **A call reads a part of the context if and only if** there are contexts that differ in nothing
else and give it different values. -/
theorem reads?_eq_some_iff {b : Builtin} {n : Nat} {part : ContextPart} :
    b.reads? n = some part ↔ ∃ (args : List Value) (c other : Context), args.length = n ∧
      b.invoke args (part.replaced c other) ≠ b.invoke args c := by
  constructor
  · intro h
    obtain ⟨args, hlength, hne⟩ := exists_invoke_ne h
    exact ⟨args, _, _, hlength, hne⟩
  · rintro ⟨args, c, other, rfl, hne⟩
    refine Classical.byContradiction fun hpart => hne (invoke_congr ?_ ?_ fun part' hpart' => ?_)
    · cases part <;> rfl
    · cases part <;> rfl
    · refine ContextPart.same_replaced ?_ c other
      rintro rfl
      exact hpart hpart'

end Builtin

namespace Expr

/-- the built-in function that is called at the top, with the number of its arguments -/
def builtinCall? : Expr → Option (Builtin × Nat)
  | .call name args => (Builtin.ofName? name).map (·, args.length)
  | _ => none

/-- the calls of built-in functions in an expression, those in predicates only if `deep` -/
def calls (deep : Bool) (e : Expr) : List (Builtin × Nat) := (e.parts deep).filterMap builtinCall?

theorem mem_calls {deep : Bool} {e x : Expr} {call : Builtin × Nat} (hx : x ∈ e.parts deep)
    (h : x.builtinCall? = some call) : call ∈ e.calls deep :=
  List.mem_filterMap.mpr ⟨x, hx, h⟩

end Expr

end Rulebook
