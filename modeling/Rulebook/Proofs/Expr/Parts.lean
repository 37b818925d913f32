import Rulebook.Expr.Basic

/-!
# Expressions in expressions

* `Expr.children`   the expressions directly in an expression, those in predicates too;
* `Expr.size`       how many expressions there are in an expression, with itself.

`Expr.induction`: **what holds of an expression if it does of those directly in it holds of all.**
-/

set_option autoImplicit false

namespace Rulebook

def Origin.children : Origin → List Expr
  | .value e => [e]
  | .context | .root => []

/-- the expressions directly in an expression, those in predicates too -/
def Expr.children : Expr → List Expr
  | .literal _ | .number _ | .var _ => []
  | .path origin steps => origin.children ++ steps.flatMap (·.predicates)
  | .call _ args => args
  | .binary _ left right => [left, right]
  | .negate operand => [operand]
  | .filter base predicates => base :: predicates
  | .sequence items => items
  | .conditional test yes no => [test, yes, no]
  | .quantified _ clauses satisfies => satisfies :: clauses.map (·.domain)
  | .range first last => [first, last]

def Expr.size (e : Expr) : Nat := (e.parts true).length

namespace Expr

open scoped List

/-! ## parts of parts -/

theorem mem_parts_self (deep : Bool) (e : Expr) : e ∈ e.parts deep := by
  cases e <;> simp [parts]

theorem size_pos (e : Expr) : 0 < e.size := List.length_pos_of_mem (mem_parts_self true e)

theorem parts_sublist_listParts {deep : Bool} {es : List Expr} {x : Expr} (h : x ∈ es) :
    x.parts deep <+ listParts deep es := by
  induction es with
  | nil => nomatch h
  | cons e es ih =>
    rw [listParts]
    rcases List.mem_cons.mp h with rfl | h
    · exact List.sublist_append_left _ _
    · exact (ih h).trans (List.sublist_append_right _ _)

theorem parts_sublist_stepParts {ss : List Step} {s : Step} {p : Expr} (hs : s ∈ ss)
    (hp : p ∈ s.predicates) : p.parts true <+ stepParts true ss := by
  induction ss with
  | nil => nomatch hs
  | cons s' ss ih =>
    rw [stepParts]
    rcases List.mem_cons.mp hs with rfl | hs
    · obtain ⟨axis, test, predicates⟩ := s
      rw [Step.parts, if_pos rfl]
      exact (parts_sublist_listParts hp).trans (List.sublist_append_left _ _)
    · exact (ih hs).trans (List.sublist_append_right _ _)

theorem parts_sublist_clauseParts {deep : Bool} {cs : List Clause} {c : Clause} (h : c ∈ cs) :
    c.domain.parts deep <+ clauseParts deep cs := by
  induction cs with
  | nil => nomatch h
  | cons c' cs ih =>
    rw [clauseParts]
    rcases List.mem_cons.mp h with rfl | h
    · obtain ⟨name, domain⟩ := c
      exact List.sublist_append_left _ _
    · exact (ih h).trans (List.sublist_append_right _ _)

/-- the parts of what is directly in an expression are parts of it, itself left out -/
theorem parts_sublist_of_mem_children {e x : Expr} (h : x ∈ e.children) :
    x.parts true <+ (e.parts true).tail := by
  cases e with
  | literal _ | number _ | var _ => nomatch h
  | path origin steps =>
    rw [parts, List.tail_cons]
    rcases List.mem_append.mp h with h | h
    · cases origin with
      | context | root => nomatch h
      | value e =>
        obtain rfl := List.mem_singleton.mp h
        exact List.sublist_append_left _ _
    · obtain ⟨s, hs, hx⟩ := List.mem_flatMap.mp h
      exact (parts_sublist_stepParts hs hx).trans (List.sublist_append_right _ _)
  | call name args => exact parts_sublist_listParts h
  | sequence items => exact parts_sublist_listParts h
  | filter base predicates =>
    rw [parts, List.tail_cons, if_pos rfl]
    rcases List.mem_cons.mp h with rfl | h
    · exact List.sublist_append_left _ _
    · exact (parts_sublist_listParts h).trans (List.sublist_append_right _ _)
  | quantified q clauses satisfies =>
    rw [parts, List.tail_cons]
    rcases List.mem_cons.mp h with rfl | h
    · exact List.sublist_append_right _ _
    · obtain ⟨c, hc, rfl⟩ := List.mem_map.mp h
      exact (parts_sublist_clauseParts hc).trans (List.sublist_append_left _ _)
  | binary _ left right | range left right =>
    simp only [children, List.mem_cons, List.not_mem_nil, or_false] at h
    rw [parts, List.tail_cons]
    rcases h with rfl | rfl
    · exact List.sublist_append_left _ _
    · exact List.sublist_append_right _ _
  | negate operand =>
    obtain rfl := List.mem_singleton.mp h
    exact List.Sublist.refl _
  | conditional test yes no =>
    simp only [children, List.mem_cons, List.not_mem_nil, or_false] at h
    rw [parts, List.tail_cons]
    rcases h with rfl | rfl | rfl
    · exact (List.sublist_append_left _ _).trans (List.sublist_append_left _ _)
    · exact (List.sublist_append_right _ _).trans (List.sublist_append_left _ _)
    · exact List.sublist_append_right _ _

theorem parts_subset_of_mem_children {e x : Expr} (h : x ∈ e.children) :
    x.parts true ⊆ e.parts true :=
  ((parts_sublist_of_mem_children h).trans (List.tail_sublist _)).subset

theorem exists_mem_of_mem_listParts {deep : Bool} {es : List Expr} {x : Expr}
    (h : x ∈ listParts deep es) : ∃ e ∈ es, x ∈ e.parts deep := by
  induction es with
  | nil => nomatch h
  | cons e es ih =>
    rcases List.mem_append.mp h with h | h
    · exact ⟨e, List.mem_cons_self, h⟩
    · obtain ⟨y, hy, h⟩ := ih h
      exact ⟨y, List.mem_cons_of_mem e hy, h⟩

theorem exists_mem_of_mem_stepParts {ss : List Step} {x : Expr} (h : x ∈ stepParts true ss) :
    ∃ p ∈ ss.flatMap (·.predicates), x ∈ p.parts true := by
  induction ss with
  | nil => nomatch h
  | cons s ss ih =>
    rw [List.flatMap_cons]
    rcases List.mem_append.mp h with h | h
    · obtain ⟨axis, test, predicates⟩ := s
      have h : x ∈ listParts true predicates := h
      obtain ⟨p, hp, h⟩ := exists_mem_of_mem_listParts h
      exact ⟨p, List.mem_append_left _ hp, h⟩
    · obtain ⟨p, hp, h⟩ := ih h
      exact ⟨p, List.mem_append_right _ hp, h⟩

theorem exists_mem_of_mem_clauseParts {deep : Bool} {cs : List Clause} {x : Expr}
    (h : x ∈ clauseParts deep cs) : ∃ e ∈ cs.map (·.domain), x ∈ e.parts deep := by
  induction cs with
  | nil => nomatch h
  | cons c cs ih =>
    rcases List.mem_append.mp h with h | h
    · obtain ⟨name, domain⟩ := c
      exact ⟨domain, List.mem_cons_self, h⟩
    · obtain ⟨e, he, h⟩ := ih h
      exact ⟨e, List.mem_cons_of_mem _ he, h⟩

/-- a part of an expression is the expression or a part of one directly in it -/
theorem exists_mem_children_of_mem_parts {e x : Expr} (h : x ∈ e.parts true) (hne : x ≠ e) :
    ∃ y ∈ e.children, x ∈ y.parts true := by
  cases e with
  | literal _ | number _ | var _ => exact absurd (List.mem_singleton.mp h) hne
  | path origin steps =>
    rcases List.mem_append.mp ((List.mem_cons.mp h).resolve_left hne) with h | h
    · cases origin with
      | context | root => nomatch h
      | value e => exact ⟨e, List.mem_cons_self, h⟩
    · obtain ⟨p, hp, h⟩ := exists_mem_of_mem_stepParts h
      exact ⟨p, List.mem_append_right _ hp, h⟩
  | call name args =>
    exact exists_mem_of_mem_listParts ((List.mem_cons.mp h).resolve_left hne)
  | sequence items =>
    exact exists_mem_of_mem_listParts ((List.mem_cons.mp h).resolve_left hne)
  | filter base predicates =>
    rcases List.mem_append.mp ((List.mem_cons.mp h).resolve_left hne) with h | h
    · exact ⟨base, List.mem_cons_self, h⟩
    · obtain ⟨p, hp, h⟩ := exists_mem_of_mem_listParts h
      exact ⟨p, List.mem_cons_of_mem base hp, h⟩
  | quantified q clauses satisfies =>
    rcases List.mem_append.mp ((List.mem_cons.mp h).resolve_left hne) with h | h
    · obtain ⟨e, he, h⟩ := exists_mem_of_mem_clauseParts h
      exact ⟨e, List.mem_cons_of_mem satisfies he, h⟩
    · exact ⟨satisfies, List.mem_cons_self, h⟩
  | binary _ left right | range left right =>
    rcases List.mem_append.mp ((List.mem_cons.mp h).resolve_left hne) with h | h
    · exact ⟨left, List.mem_cons_self, h⟩
    · exact ⟨right, List.mem_cons_of_mem left List.mem_cons_self, h⟩
  | negate operand =>
    exact ⟨operand, List.mem_cons_self, (List.mem_cons.mp h).resolve_left hne⟩
  | conditional test yes no =>
    rcases List.mem_append.mp ((List.mem_cons.mp h).resolve_left hne) with h | h
    · rcases List.mem_append.mp h with h | h
      · exact ⟨test, List.mem_cons_self, h⟩
      · exact ⟨yes, List.mem_cons_of_mem test List.mem_cons_self, h⟩
    · exact ⟨no, List.mem_cons_of_mem test (List.mem_cons_of_mem yes List.mem_cons_self), h⟩

theorem size_lt_of_mem_children {e x : Expr} (h : x ∈ e.children) : x.size < e.size := by
  have hle := (parts_sublist_of_mem_children h).length_le
  have hpos := e.size_pos
  rw [List.length_tail] at hle
  unfold size at hpos ⊢
  omega

/-! ## induction -/

/-- what holds of an expression if it does of those in it holds of all -/
theorem induction {P : Expr → Prop} (step : ∀ e, (∀ x ∈ e.children, P x) → P e) (e : Expr) :
    P e :=
  step e fun x _ => induction step x
termination_by e.size
decreasing_by exact size_lt_of_mem_children ‹_›

end Expr

end Rulebook
