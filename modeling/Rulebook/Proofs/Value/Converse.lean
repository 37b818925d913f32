import Rulebook.Value.Operator

/-!
# Comparisons turned around

* `Relation.converse`   the relation that holds of two things the other way round.

`apply_converse`: **a comparison has the value of its converse with the sides exchanged**, whatever
items the sides have; a comparison of single literals fails where its converse does.
-/

set_option autoImplicit false

namespace Rulebook

/-! ## numbers -/

namespace Number

open Float.Model (UnpackedFloat)

theorem compareSign_swap (s t : UnpackedFloat.Sign) :
    Ord.compare t s = (Ord.compare s t).swap := by
  cases s <;> cases t <;> rfl

/-- numbers of one sign go by their exponents first -/
theorem compareParts_swap (e f : Int) (m n : Nat) :
    (Ord.compare f e).then (Ord.compare n m) =
      ((Ord.compare e f).then (Ord.compare m n)).swap := by
  rw [Ordering.swap_then, ← Std.OrientedOrd.eq_swap, ← Std.OrientedOrd.eq_swap]

theorem compareUnpacked_swap (x y : UnpackedFloat) :
    y.compare x = (x.compare y).map Ordering.swap := by
  cases x with
  | notANumber => cases y <;> rfl
  | infinity s =>
    cases y with
    | infinity t => exact congrArg some (compareSign_swap s t)
    | _ => cases s <;> rfl
  | zero s =>
    cases y with
    | notANumber | zero => rfl
    | infinity t | finite t => cases t <;> rfl
  | finite s m e =>
    cases y with
    | notANumber => rfl
    | zero => cases s <;> rfl
    | infinity t => cases t <;> rfl
    | finite t n f =>
      cases s <;> cases t
      case positive.positive => exact congrArg some (compareParts_swap e f m n)
      case negative.negative => exact congrArg (fun o => some o.swap) (compareParts_swap e f m n)
      all_goals rfl

theorem lt_iff (x y : Float) : x < y ↔ x.toModel.unpack.compare y.toModel.unpack = some .lt :=
  decide_eq_true_iff.trans (beq_iff_eq (α := Option Ordering))

theorem beq_iff (x y : Float) :
    (x == y) = true ↔ x.toModel.unpack.compare y.toModel.unpack = some .eq :=
  beq_iff_eq (α := Option Ordering)

theorem compare?_eq (x y : Float) :
    compare? x y = x.toModel.unpack.compare y.toModel.unpack := by
  unfold compare?
  simp only [lt_iff, beq_iff, compareUnpacked_swap x.toModel.unpack y.toModel.unpack]
  rcases x.toModel.unpack.compare y.toModel.unpack with _ | _ | _ | _ <;> rfl

/-- **The order of numbers is antisymmetric**, that of infinities and zeros included, and what is
no number is comparable with nothing from either side. -/
theorem compare?_swap (x y : Float) : compare? y x = (compare? x y).map Ordering.swap := by
  rw [compare?_eq, compare?_eq, compareUnpacked_swap]

end Number

/-! ## literals -/

theorem Time.Instant.compare_swap (s t : Instant) : t.compare s = (s.compare t).swap := by
  unfold compare
  rw [Ordering.swap_then, ← Std.OrientedOrd.eq_swap, ← Std.OrientedOrd.eq_swap]

theorem Atomic.compare?_swap (relational : Bool) (a b : Atomic) :
    compare? relational b a = (compare? relational a b).map Ordering.swap := by
  have hnumber := Number.compare?_swap a.asNumber b.asNumber
  have htruth : some (Ord.compare b.truth a.truth) =
      (some (Ord.compare a.truth b.truth)).map Ordering.swap :=
    congrArg some Std.OrientedOrd.eq_swap
  have hboolean : (if relational then Number.compare? b.asNumber a.asNumber
        else some (Ord.compare b.truth a.truth)) =
      (if relational then Number.compare? a.asNumber b.asNumber
        else some (Ord.compare a.truth b.truth)).map Ordering.swap := by
    cases relational
    · exact htruth
    · exact hnumber
  have hinstant (s t : Time.Instant) :
      some (t.compare s) = (some (s.compare t)).map Ordering.swap :=
    congrArg some (s.compare_swap t)
  -- the first kind in this order that one of the two is decides how both are read
  cases a with
  | boolean => cases b <;> exact hboolean
  | instant s =>
    cases b with
    | boolean => exact hboolean
    | instant t => exact hinstant s t
    | number => rfl
    | text t =>
      simp only [compare?, asInstant?]
      cases Time.parseInstant? t with
      | none => rfl
      | some t => exact hinstant s t
  | number x =>
    cases b with
    | boolean => exact hboolean
    | instant => rfl
    | number | text => exact hnumber
  | text s =>
    cases b with
    | boolean => exact hboolean
    | instant t =>
      simp only [compare?, asInstant?]
      cases Time.parseInstant? s with
      | none => rfl
      | some s => exact hinstant s t
    | number => exact hnumber
    | text t =>
      cases relational
      · exact congrArg some Std.OrientedOrd.eq_swap
      · exact hnumber

/-! ## relations -/

def Relation.converse : Relation → Relation
  | eq => eq
  | ne => ne
  | lt => gt
  | le => ge
  | gt => lt
  | ge => le

namespace Relation

theorem isRelational_converse (r : Relation) : r.converse.isRelational = r.isRelational := by
  cases r <;> rfl

theorem holds_converse (r : Relation) (o : Option Ordering) :
    r.converse.holds (o.map Ordering.swap) = r.holds o := by
  rcases o with _ | _ | _ | _ <;> cases r <;> rfl

/-- what a relation says of two literals its converse says of them the other way round -/
theorem holds_compare?_converse (r : Relation) (relational : Bool) (a b : Atomic) :
    r.converse.holds (b.compare? relational a) = r.holds (a.compare? relational b) := by
  rw [Atomic.compare?_swap relational a b, holds_converse]

end Relation

/-! ## values -/

namespace Value

variable (d : Document) (r : Relation) (left right : Value)

theorem generalHolds_converse :
    generalHolds d r.converse right left = generalHolds d r left right := by
  unfold generalHolds
  rw [Bool.or_comm, r.isRelational_converse]
  split
  · exact r.holds_compare?_converse _ _ _
  · dsimp only
    rw [Bool.eq_iff_iff]
    simp only [List.any_eq_true, r.holds_compare?_converse]
    constructor
    · rintro ⟨b, hb, a, ha, h⟩
      exact ⟨a, ha, b, hb, h⟩
    · rintro ⟨a, ha, b, hb, h⟩
      exact ⟨b, hb, a, ha, h⟩

/-- both sides must be single literals, whichever is looked at first -/
theorem compareSingle_converse :
    (compareSingle d r.converse right left).toOption = (compareSingle d r left right).toOption := by
  unfold compareSingle
  cases left.single? d with
  | error e => cases right.single? d <;> rfl
  | ok a =>
    cases right.single? d with
    | error e => rfl
    | ok b =>
      rcases a with _ | a <;> rcases b with _ | b
      case some.some =>
        exact congrArg (fun holds => some (ofBool holds)) (r.holds_compare?_converse false a b)
      all_goals rfl

end Value

/-- **A comparison has the value of its converse with the sides exchanged.**  General comparisons
have one for all sides; of single literals the converse has the same value, be it an empty one, or
fails as well. -/
theorem apply_converse (d : Document) (r : Relation) (left right : Value) :
    (BinaryOp.general r).apply d left right = (BinaryOp.general r.converse).apply d right left ∧
      ((BinaryOp.value r).apply d left right).toOption =
        ((BinaryOp.value r.converse).apply d right left).toOption := by
  have hgeneral := Value.generalHolds_converse d r left right
  exact ⟨congrArg (fun holds => Except.ok (Value.ofBool holds)) hgeneral.symm,
    (Value.compareSingle_converse d r left right).symm⟩

end Rulebook
