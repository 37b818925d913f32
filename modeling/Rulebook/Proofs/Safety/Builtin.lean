import Rulebook.Eval.Builtin
import Rulebook.Proofs.Safety.Checked
import Rulebook.Proofs.Text.Occurrences

/-!
# Built-in functions that cannot panic

A built-in function with its operations checked: arguments are read by their index, places are
counted, and a text is cut at a byte, the one where another was found.

* `textBeforeChecked`, `textAfterChecked`, `sliceChecked`   the functions of texts;
* `Builtin.admits`           a function takes so many arguments;
* `Builtin.invokeChecked`    the call of a function.

`invokeChecked_eq`: **a call either has a wrong number of arguments and says so, or has all the
arguments that it reads**, and then has the value that it has without the checks.
-/

set_option autoImplicit false

namespace Rulebook

open Checked Text

/-! ## texts -/

namespace Text

/-- the text in front of the first byte where the pattern stands -/
def textBeforeChecked (pattern s : String) : Checked String :=
  match firstByte? s pattern with
  | some i => cutBefore s i
  | none => .ok ""

/-- the text from the byte on where the pattern ends -/
def textAfterChecked (pattern s : String) : Checked String :=
  match firstByte? s pattern with
  | some i => do
    let behind ← addCount s.utf8ByteSize i pattern.utf8ByteSize
    cutAfter s behind
  | none => .ok ""

theorem textBeforeChecked_eq (pattern s : String) :
    textBeforeChecked pattern s = .ok (textBefore pattern s) := by
  unfold textBeforeChecked
  rcases around_cases pattern s with h | ⟨before, after, h⟩
  · rw [firstByte?_of_not_occurs h, textBefore_of_not_occurs h]
  · rw [firstByte?_of_around h, textBefore_of_around h]
    dsimp only
    rw [h.eq_append, cutBefore_append]

theorem textAfterChecked_eq (pattern s : String) :
    textAfterChecked pattern s = .ok (textAfter pattern s) := by
  unfold textAfterChecked
  rcases around_cases pattern s with h | ⟨before, after, h⟩
  · rw [firstByte?_of_not_occurs h, textAfter_of_not_occurs h]
  · have hs : s = (before ++ pattern) ++ after := h.eq_append.trans String.append_assoc.symm
    have hbehind : (before ++ pattern).utf8ByteSize ≤ s.utf8ByteSize := by
      rw [hs, String.utf8ByteSize_append (s := before ++ pattern)]
      exact Nat.le_add_right _ _
    rw [String.utf8ByteSize_append] at hbehind
    rw [firstByte?_of_around h, textAfter_of_around h]
    dsimp only
    rw [addCount_of_le hbehind, ← String.utf8ByteSize_append]
    show cutAfter s _ = _
    rw [hs, cutAfter_append]

end Text

namespace Builtin

/-- the characters of `sliceFrom`, each with its index -/
def sliceFromChecked (first bound : Float) (size : Nat) : Nat → List Char → Checked (List Char)
  | _, [] => .ok []
  | i, c :: cs => do
    let place ← addCount size i 1
    let rest ← sliceFromChecked first bound size (i + 1) cs
    let x := Number.ofNat place
    return if first ≤ x && x < bound then c :: rest else rest

def sliceChecked (s : String) (first bound : Float) : Checked String := do
  let cs ← sliceFromChecked first bound s.length 0 s.toList
  return String.ofList cs

theorem sliceFromChecked_eq (first bound : Float) {size i : Nat} {cs : List Char}
    (h : i + cs.length ≤ size) :
    sliceFromChecked first bound size i cs = .ok (sliceFrom first bound (i + 1) cs) := by
  induction cs generalizing i with
  | nil => rfl
  | cons c cs ih =>
    rw [List.length_cons] at h
    have hplace : i + 1 ≤ size := by omega
    have hrest : i + 1 + cs.length ≤ size := by omega
    rw [sliceFromChecked, addCount_of_le hplace, ih hrest]
    rfl

theorem sliceChecked_eq (s : String) (first bound : Float) :
    sliceChecked s first bound = .ok (slice s first bound) := by
  have hlength : 0 + s.toList.length ≤ s.length := by
    rw [Nat.zero_add]
    exact Nat.le_of_eq String.length_toList
  unfold sliceChecked
  rw [sliceFromChecked_eq first bound hlength]
  rfl

/-! ## calls -/

/-- a function takes so many arguments -/
def admits (b : Builtin) (count : Nat) : Bool :=
  decide (b.arity.1 ≤ count) && b.arity.2.all fun most => decide (count ≤ most)

/-- the text of the first argument, or that of the item that the expression is about -/
def textOrItem (args : List Value) (c : Context) : String :=
  match args.head? with
  | some v => v.text c.document
  | none => c.item.text c.document

/-- a part of the name of the first argument, or of the node that the expression is about -/
def nameChecked (b : Builtin) (args : List Value) (c : Context) (part : Name → String) :
    Checked Value :=
  match args.head? with
  | some v => of (nameOf b c part v)
  | none => of (c.node.map (namePart c part))

/-- two arguments as texts -/
def twoTexts (args : List Value) (c : Context) : Checked (String × String) := do
  let v ← read args 0
  let w ← read args 1
  return (v.text c.document, w.text c.document)

/-- the value of a call whose number of arguments is not looked at any more -/
def dispatchChecked (b : Builtin) (args : List Value) (c : Context) : Checked Value :=
  let text := Value.text c.document
  let number := Value.number c.document
  match b with
  | position => .ok (.ofNumber (Number.ofNat c.position))
  | last => .ok (.ofNumber (Number.ofNat c.size))
  | current => .ok [c.current]
  | name => nameChecked b args c Name.lexical
  | localName => nameChecked b args c Name.localPart
  | namespaceUri => nameChecked b args c fun n => n.uri.getD ""
  | count => do return .ofNumber (Number.ofNat (← read args 0).length)
  | string => .ok (.ofText (textOrItem args c))
  | .number =>
    match args.head? with
    | some v => .ok (.ofNumber (number v))
    | none => .ok (.ofNumber (Number.parse (c.item.text c.document)))
  | boolean => do return .ofBool (← read args 0).truth
  | .exists => do return .ofBool !(← read args 0).isEmpty
  | empty => do return .ofBool (← read args 0).isEmpty
  | lang => do
    let tested := text (← read args 0)
    of (c.node.map fun n => .ofBool (speaks c.document n tested))
  | concat => .ok (.ofText (String.join (args.map text)))
  | contains => do
    let (s, t) ← twoTexts args c
    return .ofBool (occursIn t s)
  | startsWith => do
    let (s, t) ← twoTexts args c
    return .ofBool (begins t s)
  | endsWith => do
    let (s, t) ← twoTexts args c
    return .ofBool (ends t s)
  | substring => do
    let s := text (← read args 0)
    let first := Number.roundHalfUp (number (← read args 1))
    let bound := match args[2]? with
      | some x => first + Number.roundHalfUp (number x)
      | none => Number.infinity
    return .ofText (← sliceChecked s first bound)
  | substringBefore => do
    let (s, t) ← twoTexts args c
    return .ofText (← textBeforeChecked t s)
  | substringAfter => do
    let (s, t) ← twoTexts args c
    return .ofText (← textAfterChecked t s)
  | stringLength => .ok (.ofNumber (Number.ofNat (textOrItem args c).length))
  | normalizeSpace => .ok (.ofText (Text.normalizeSpace (textOrItem args c)))
  | translate => do
    let s := text (← read args 0)
    let source := text (← read args 1)
    let target := text (← read args 2)
    return .ofText (String.ofList (Text.translate source.toList target.toList s.toList))
  | upperCase => do return .ofText (upper (text (← read args 0)))
  | lowerCase => do return .ofText (lower (text (← read args 0)))
  | stringJoin => do
    let separator := (args[1]?.map text).getD ""
    return .ofText (separator.intercalate ((← read args 0).map (Item.text c.document)))
  | .matches => do
    let s := text (← read args 0)
    let pattern := text (← read args 1)
    let flags := (args[2]?.map text).getD ""
    of ((matchesPattern s pattern flags).map .ofBool)
  | not => do return .ofBool !(← read args 0).truth
  | true => .ok (.ofBool Bool.true)
  | false => .ok (.ofBool Bool.false)
  | sum => do
    return .ofNumber (Number.sum (((← read args 0).atomize c.document).map Atomic.asNumber))
  | floor => do return .ofNumber (number (← read args 0)).floor
  | ceiling => do return .ofNumber (number (← read args 0)).ceil
  | round => do return .ofNumber (Number.roundHalfUp (number (← read args 0)))
  | abs => do return .ofNumber (number (← read args 0)).abs
  | currentDateTime => .ok (.ofInstant c.now)
  | currentDate => .ok (.ofInstant c.now.midnight)
  | dateTime => do of (instantOf b c id (← read args 0))
  | date => do of (instantOf b c Time.Instant.midnight (← read args 0))

/-- the value of a call in a context -/
def invokeChecked (b : Builtin) (args : List Value) (c : Context) : Checked Value :=
  if b.admits args.length then b.dispatchChecked args c
  else .error (.error (b.wrongArity args.length))

/-- with nothing between them texts are joined -/
theorem intercalate_empty (ss : List String) : "".intercalate ss = String.join ss := by
  induction ss with
  | nil => rfl
  | cons s ss ih =>
    cases ss with
    | nil =>
      rw [String.intercalate_singleton, String.join_cons, String.join_nil, String.append_empty]
    | cons t ss => rw [String.intercalate_cons_cons, ih, String.append_empty, ← String.join_cons]

theorem bind_ofText {x : Checked String} {s : String} (h : x = .ok s) :
    (x >>= fun s => .ok (Value.ofText s)) = of (.ok (.ofText s)) := by
  rw [h]
  rfl

/-- with as many arguments as a function takes, those that it reads are there -/
theorem dispatchChecked_eq (b : Builtin) (args : List Value) (c : Context)
    (h : b.admits args.length = Bool.true) : b.dispatchChecked args c = of (b.invoke args c) := by
  -- for most functions both sides compute to the same, whichever numbers of arguments they take
  rcases args with _ | ⟨v, _ | ⟨w, _ | ⟨x, _ | ⟨y, rest⟩⟩⟩⟩ <;> cases b
  case cons.nil.stringJoin =>
    exact congrArg (fun s => of (.ok (Value.ofText s))) (intercalate_empty _)
  case cons.cons.nil.substring => exact bind_ofText (sliceChecked_eq _ _ _)
  case cons.cons.cons.nil.substring => exact bind_ofText (sliceChecked_eq _ _ _)
  case cons.cons.nil.substringBefore => exact bind_ofText (textBeforeChecked_eq _ _)
  case cons.cons.nil.substringAfter => exact bind_ofText (textAfterChecked_eq _ _)
  all_goals first | rfl | cases h

/-- with more arguments or fewer it does not look at any -/
theorem invoke_of_not_admits (b : Builtin) (args : List Value) (c : Context)
    (h : b.admits args.length = Bool.false) :
    b.invoke args c = .error (b.wrongArity args.length) := by
  rcases args with _ | ⟨v, _ | ⟨w, _ | ⟨x, _ | ⟨y, rest⟩⟩⟩⟩ <;> cases b <;> first | rfl | cases h

/-- **A call has the arguments that it reads.**  Checked it is what it is without the checks: the
error of a wrong number of arguments if the function does not take so many, and no panic else. -/
theorem invokeChecked_eq (b : Builtin) (args : List Value) (c : Context) :
    b.invokeChecked args c = of (b.invoke args c) := by
  unfold invokeChecked
  cases h : b.admits args.length with
  | true => exact dispatchChecked_eq b args c h
  | false =>
    rw [invoke_of_not_admits b args c h]
    rfl

end Builtin

end Rulebook
