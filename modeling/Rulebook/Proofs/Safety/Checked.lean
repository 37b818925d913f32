import Rulebook.Value.Error

/-!
# Operations that can panic

Reading a list at an index, cutting a text at a byte and counting in machine words are operations
that stop the program where they do not make sense.  Here they say so.

* `Panic`       why a program stops;
* `Checked`     computations that panic, or end as those do that cannot;
* `read`, `reverseFrom`, `cutBefore`, `cutAfter`, `addCount`, `subtract`   the operations.

Lists and texts lie in memory, so a word holds their lengths.  How much memory there is does not
matter then: `addCount` is given a number that a word holds, and admits no sum above it.
-/

set_option autoImplicit false

namespace Rulebook

inductive Panic where
  /-- an index outside of a list -/
  | missing
  /-- a text cut outside of itself or inside of a character -/
  | boundary
  /-- a number that a word does not hold -/
  | overflow
deriving DecidableEq, Repr

/-- what a computation ends with that has no value -/
inductive Stop where
  | error (e : EvalError)
  | panic (p : Panic)
deriving DecidableEq, Repr

abbrev Checked (α : Type) := Except Stop α

namespace Checked

/-! ## without panics -/

section
variable {α β : Type}

/-- a computation that cannot panic -/
def of (x : Except EvalError α) : Checked α := x.mapError .error

theorem of_ne_panic (x : Except EvalError α) (p : Panic) : of x ≠ .error (.panic p) := by
  cases x <;> nofun

/-- what comes next may use that there is a value -/
theorem bind_eq_of {x : Checked α} {y : Except EvalError α} {f : α → Checked β}
    {g : α → Except EvalError β} (hx : x = of y) (hf : ∀ a, y = .ok a → f a = of (g a)) :
    x >>= f = of (y >>= g) := by
  subst hx
  cases y with
  | error e => rfl
  | ok a => exact hf a rfl

theorem of_map (f : α → β) (x : Except EvalError α) : of (x.map f) = (of x).map f := by
  cases x <;> rfl

theorem foldlM_eq_of {f : β → α → Checked β} {g : β → α → Except EvalError β}
    (h : ∀ b a, f b a = of (g b a)) (as : List α) (b : β) :
    as.foldlM f b = of (as.foldlM g b) := by
  induction as generalizing b with
  | nil => rfl
  | cons a as ih =>
    rw [List.foldlM_cons, List.foldlM_cons]
    exact bind_eq_of (h b a) fun b' _ => ih b'

theorem mapM_eq_ok {f : α → Checked β} {g : α → β} {as : List α}
    (h : ∀ a ∈ as, f a = .ok (g a)) : as.mapM f = .ok (as.map g) := by
  induction as with
  | nil => rfl
  | cons a as ih =>
    obtain ⟨ha, has⟩ := List.forall_mem_cons.mp h
    rw [List.mapM_cons, ha, ih has]
    rfl

end

/-! ## lists -/

section
variable {α : Type} {xs : List α}

def read (xs : List α) (i : Nat) : Checked α :=
  match xs[i]? with
  | some a => .ok a
  | none => .error (.panic .missing)

/-- the items from an index on turned round -/
def reverseFrom (start : Nat) (xs : List α) : Checked (List α) :=
  if start ≤ xs.length then .ok (xs.take start ++ (xs.drop start).reverse)
  else .error (.panic .missing)

/-- what was added to a list can be turned round -/
theorem reverseFrom_append (found added : List α) :
    reverseFrom found.length (found ++ added) = .ok (found ++ added.reverse) := by
  unfold reverseFrom
  rw [if_pos (List.length_append ▸ Nat.le_add_right _ _), List.take_left, List.drop_left]

end

/-! ## texts -/

/-- a text up to one of its bytes -/
def cutBefore (s : String) (i : Nat) : Checked String :=
  match s.pos? ⟨i⟩ with
  | some p => .ok (s.sliceTo p).copy
  | none => .error (.panic .boundary)

/-- a text from one of its bytes on -/
def cutAfter (s : String) (i : Nat) : Checked String :=
  match s.pos? ⟨i⟩ with
  | some p => .ok (s.sliceFrom p).copy
  | none => .error (.panic .boundary)

theorem pos?_of_isValid {s : String} {i : String.Pos.Raw} (h : i.IsValid s) :
    s.pos? i = some (s.pos i h) := by
  have hslice := String.Pos.Raw.isValidForSlice_toSlice_iff.mpr h
  unfold String.pos? String.Slice.pos?
  rw [dif_pos (String.Pos.Raw.isValidForSlice_eq_true_iff.mpr hslice)]
  rfl

theorem exists_pos?_append (before after : String) :
    ∃ p, (before ++ after).pos? ⟨before.utf8ByteSize⟩ = some p ∧ p.Splits before after :=
  ⟨_, pos?_of_isValid _, String.Pos.splits_append_rawEndPos⟩

/-- a text can be cut where one of its parts ends -/
theorem cutBefore_append (before after : String) :
    cutBefore (before ++ after) before.utf8ByteSize = .ok before := by
  obtain ⟨p, hp, hsplits⟩ := exists_pos?_append before after
  unfold cutBefore
  rw [hp]
  exact congrArg _ hsplits.copy_sliceTo_eq

theorem cutAfter_append (before after : String) :
    cutAfter (before ++ after) before.utf8ByteSize = .ok after := by
  obtain ⟨p, hp, hsplits⟩ := exists_pos?_append before after
  unfold cutAfter
  rw [hp]
  exact congrArg _ hsplits.copy_sliceFrom_eq

/-! ## numbers -/

/-- the sum of two counts, where `held` is a number that a word holds -/
def addCount (held a b : Nat) : Checked Nat :=
  if a + b ≤ held then .ok (a + b) else .error (.panic .overflow)

theorem addCount_of_le {held a b : Nat} (h : a + b ≤ held) : addCount held a b = .ok (a + b) :=
  if_pos h

/-- what a word holds that has a sign -/
def FitsWord (n : Int) : Prop := -Int.pow 2 63 ≤ n ∧ n < Int.pow 2 63

instance (n : Int) : Decidable (FitsWord n) := inferInstanceAs (Decidable (_ ∧ _))

def subtract (a b : Int) : Checked Int :=
  if FitsWord (a - b) then .ok (a - b) else .error (.panic .overflow)

end Checked

end Rulebook
