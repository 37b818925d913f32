import Rulebook.Proofs.Document.Axes
import Rulebook.Proofs.Document.Visit

/-!
# The direction of an axis

Positions count along an axis, so the order in which it gives its nodes is part of what it means.

* `ascending_along`           forward axes;
* `ascending_reverse_along`   reverse axes.

`along_directed`: **an axis gives its nodes in strict document order or, if it is a reverse one, in
strict document order turned round**, whatever the node and the document.
-/

set_option autoImplicit false

namespace Rulebook.Document

/-! ## what belongs to a node -/

theorem ascending_children (d : Document) (n : Node) : Node.Ascending (d.children n) := by
  cases hn : n.isAttribute with
  | true =>
    rw [(children_of_attribute hn).1]
    exact Node.ascending_nil
  | false =>
    rw [children_eq hn]
    exact List.pairwise_map.mpr (List.pairwise_lt_range.imp before_branch_iff.mpr)

theorem ascending_attributes (d : Document) (n : Node) : Node.Ascending (d.attributes n) := by
  cases hn : n.isAttribute with
  | true =>
    rw [(children_of_attribute hn).2]
    exact Node.ascending_nil
  | false =>
    rw [attributes_eq hn]
    refine List.pairwise_map.mpr (List.pairwise_lt_range.imp fun {i j} hij => ?_)
    have hpath : (⟨n.path, i + 1⟩ : Node).path = (⟨n.path, j + 1⟩ : Node).path := rfl
    exact (Node.before_iff_of_path_eq hpath).mpr (Nat.succ_lt_succ hij)

/-! ## what a node lies in -/

/-- from the outside to the inside -/
theorem ascending_reverse_ancestors (n : Node) : Node.Ascending n.ancestors.reverse := by
  rw [Node.ancestors_eq]
  exact List.pairwise_reverse.mpr ((Node.pairwise_around _).imp Node.Holds.before)

theorem ascending_reverse_ancestorsOrSelf (n : Node) :
    Node.Ascending n.ancestorsOrSelf.reverse := by
  unfold Node.ancestorsOrSelf
  rw [List.reverse_cons]
  refine List.pairwise_append.mpr
    ⟨ascending_reverse_ancestors n, Node.ascending_singleton n, fun m hm k hk => ?_⟩
  obtain rfl := List.mem_singleton.mp hk
  exact Node.before_of_mem_ancestors (List.mem_reverse.mp hm)

/-- there is one parent at most -/
theorem ascending_reverse_parent (n : Node) : Node.Ascending n.parent?.toList.reverse := by
  cases n.parent? with
  | none => exact Node.ascending_nil
  | some p => exact Node.ascending_singleton p

/-! ## what lies beside a node -/

theorem ascending_siblings (d : Document) (n : Node) : Node.Ascending (d.siblings n) :=
  (pairwise_siblings d n).imp Node.Left.before

theorem ascending_followingSiblings (d : Document) (n : Node) :
    Node.Ascending (d.followingSiblings n) :=
  (ascending_siblings d n).filter _

theorem ascending_reverse_precedingSiblings (d : Document) (n : Node) :
    Node.Ascending (d.precedingSiblings n).reverse := by
  unfold precedingSiblings
  rw [List.reverse_reverse]
  exact (ascending_siblings d n).filter _

/-! ## all axes -/

theorem ascending_along (d : Document) (n : Node) :
    ∀ {a : Axis}, a.isReverse = false → Node.Ascending (d.along n a)
  | .child, _ => ascending_children d n
  | .descendant, _ => ascending_descendants d n
  | .descendantOrSelf, _ => ascending_descendantsOrSelf d n
  | .attribute, _ => ascending_attributes d n
  | .self, _ => Node.ascending_singleton n
  | .followingSibling, _ => ascending_followingSiblings d n
  | .following, _ => ascending_following d n

theorem ascending_reverse_along (d : Document) (n : Node) :
    ∀ {a : Axis}, a.isReverse = true → Node.Ascending (d.along n a).reverse
  | .parent, _ => ascending_reverse_parent n
  | .ancestor, _ => ascending_reverse_ancestors n
  | .ancestorOrSelf, _ => ascending_reverse_ancestorsOrSelf n
  | .precedingSibling, _ => ascending_reverse_precedingSiblings d n
  | .preceding, _ => ascending_reverse_preceding d n

/-- **An axis has a direction.**  From any node of any document each of the twelve axes gives its
nodes in document order, the reverse ones the other way round, and no node twice. -/
theorem along_directed (d : Document) (n : Node) (a : Axis) :
    (d.along n a).Pairwise (fun x y => x.compare y = if a.isReverse then .gt else .lt) ∧
      (d.along n a).Nodup := by
  cases h : a.isReverse with
  | false =>
    have hascending := ascending_along d n h
    exact ⟨hascending.imp Node.before_iff.mp, hascending.nodup⟩
  | true =>
    have hascending := ascending_reverse_along d n h
    refine ⟨(List.pairwise_reverse.mp hascending).imp fun hbefore => ?_,
      List.nodup_reverse.mp hascending.nodup⟩
    exact Std.OrientedCmp.gt_iff_lt.mpr (Node.before_iff.mp hbefore)

end Rulebook.Document
