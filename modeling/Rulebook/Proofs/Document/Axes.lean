import Mathlib.Data.List.Nodup
import Rulebook.Document.Axis
import Rulebook.Document.Invoice
import Rulebook.Proofs.Document.Places

/-!
# The axes of a node

Which nodes an axis gives, and in which order.

* `Document.beside`          what lies in the siblings of a node on one side;
* `Axis.partition`           the axes that divide a document up.

`along_partition`: **a node, the trees it lies in, what lies in it, what precedes and what follows it
have nothing in common, no node twice, and are together the node and all trees of the document; what
follows comes after the node and does not lie in it, what precedes comes before it and does not hold
it.**
-/

set_option autoImplicit false

namespace Rulebook

/-- the axes that divide a document up -/
def Axis.partition : List Axis := [.self, .ancestor, .descendant, .preceding, .following]

namespace Node

variable {n c : Node} {path : List Nat}

/-! ## ancestors -/

/-- a tree is determined by its path -/
theorem eq_of_trees (hc : c.isAttribute = false) (hn : n.isAttribute = false)
    (h : c.path = n.path) : c = n := by
  cases c
  cases n
  cases h
  cases isAttribute_eq_false_iff.mp hc
  cases isAttribute_eq_false_iff.mp hn
  rfl

/-- around a branch stand its tree and what this lies in -/
theorem mem_around_cons {i : Nat} : c ∈ around (i :: path) ↔
    c.isAttribute = false ∧ c.path <:+ path := by
  have htree (p : List Nat) : c = ⟨p, 0⟩ ↔ c.isAttribute = false ∧ c.path = p := by
    constructor
    · rintro rfl
      exact ⟨rfl, rfl⟩
    · exact fun ⟨hc, hpath⟩ => eq_of_trees hc rfl hpath
  induction path generalizing i with
  | nil => rw [around, around, List.mem_singleton, htree, List.suffix_nil]
  | cons j path ih =>
    have hrest : c ∈ around (j :: path) ↔ c.isAttribute = false ∧ c.path <:+ path := ih
    rw [around, List.mem_cons, hrest, htree, ← and_or_left, List.suffix_cons_iff]

theorem mem_around : c ∈ around path ↔
    c.isAttribute = false ∧ c.path <:+ path ∧ c.path ≠ path := by
  cases path with
  | nil =>
    refine iff_of_false List.not_mem_nil ?_
    rintro ⟨-, hpath, hne⟩
    exact hne (List.suffix_nil.mp hpath)
  | cons i path => rw [mem_around_cons, suffix_iff_of_cons]

/-- from the inside to the outside -/
theorem pairwise_around (path : List Nat) :
    (around path).Pairwise fun a b => Holds b a := by
  induction path with
  | nil => exact List.Pairwise.nil
  | cons i path ih =>
    refine List.pairwise_cons.mpr ⟨fun b hb => ?_, ih⟩
    obtain ⟨-, hpath, hne⟩ := mem_around.mp hb
    exact ⟨hpath, hne⟩

theorem nodup_around (path : List Nat) : (around path).Nodup :=
  (pairwise_around path).imp fun h heq => h.2 (congrArg _ heq).symm

theorem ancestors_eq (n : Node) :
    n.ancestors = around (if n.isAttribute then 0 :: n.path else n.path) := by
  unfold ancestors
  cases n.isAttribute <;> rfl

/-- behind an attribute stand its owner and what this lies in, behind a tree it stands itself -/
theorem ancestorsOrSelf_eq (n : Node) :
    n.ancestorsOrSelf = (if n.isAttribute then [n] else []) ++ around (0 :: n.path) := by
  unfold ancestorsOrSelf ancestors
  cases hn : n.isAttribute with
  | true => rfl
  | false =>
    have hself : n = ⟨n.path, 0⟩ := eq_of_trees hn rfl rfl
    rw [if_neg Bool.false_ne_true, if_neg Bool.false_ne_true, around, List.nil_append, ← hself]

theorem nodup_ancestors (n : Node) : n.ancestors.Nodup := by
  rw [ancestors_eq]
  exact nodup_around _

/-- a node lies in the trees that its path goes on from -/
theorem mem_ancestors : c ∈ n.ancestors ↔ c.isAttribute = false ∧ c.path <:+ n.path ∧ c ≠ n := by
  rw [ancestors_eq]
  cases hn : n.isAttribute with
  | true =>
    rw [if_pos rfl, mem_around_cons]
    refine and_congr_right fun htree => ⟨fun hpath => ⟨hpath, fun heq => ?_⟩, And.left⟩
    rw [heq, hn] at htree
    cases htree
  | false =>
    rw [if_neg Bool.false_ne_true, mem_around]
    refine and_congr_right fun htree => and_congr_right fun _ => not_congr ?_
    exact ⟨eq_of_trees htree hn, congrArg _⟩

/-- a node lies in its parent and in all that this lies in -/
theorem mem_ancestors_iff_parent : c ∈ n.ancestors ↔
    ∃ p, n.parent? = some p ∧ (c = p ∨ c ∈ p.ancestors) := by
  have hparent : n.ancestors = n.parent?.elim [] fun p => p :: p.ancestors := by
    unfold ancestors parent?
    cases n.isAttribute with
    | true => rfl
    | false => cases n.path <;> rfl
  rw [hparent]
  cases n.parent? with
  | none => exact iff_of_false List.not_mem_nil nofun
  | some p => simp

theorem before_of_mem_ancestors (h : c ∈ n.ancestors) : c.before n = true := by
  obtain ⟨htree, hpath, hne⟩ := mem_ancestors.mp h
  by_cases heq : c.path = n.path
  · rw [before_iff_of_path_eq heq, isAttribute_eq_false_iff.mp htree]
    by_contra hslot
    have hn : n.slot = 0 := by omega
    exact hne (eq_of_trees htree (isAttribute_eq_false_iff.mpr hn) heq)
  · exact Holds.before ⟨hpath, heq⟩

end Node

namespace Document

variable {d : Document} {n m x : Node}

/-! ## descendants -/

theorem mem_descendants : m ∈ d.descendants n ↔
    n.isAttribute = false ∧ m.isAttribute = false ∧ d.HasPath m.path ∧ n.Holds m := by
  unfold descendants
  cases hn : n.isAttribute with
  | true =>
    rw [if_pos rfl]
    exact iff_of_false List.not_mem_nil nofun
  | false =>
    have hforest : m ∈ Tree.forestNodes n.path 0 (d.below n.path) ↔
        (∃ j, 0 ≤ j ∧ (j :: n.path) <:+ m.path) ∧ d.Has m := mem_forestNodes rfl m
    rw [if_neg Bool.false_ne_true, Tree.subforest_eq_filter, List.mem_filter, hforest,
      Bool.not_eq_true', Node.holds_iff]
    constructor
    · rintro ⟨⟨⟨j, -, hj⟩, hm⟩, htree⟩
      exact ⟨rfl, htree, hm.1, j, hj⟩
    · rintro ⟨-, htree, hm, j, hj⟩
      exact ⟨⟨⟨j, Nat.zero_le j, hj⟩, (has_iff_of_tree htree).mpr hm⟩, htree⟩

theorem mem_descendants_iff_ancestors : m ∈ d.descendants n ↔
    d.Has m ∧ m.isAttribute = false ∧ n ∈ m.ancestors := by
  rw [mem_descendants, Node.mem_ancestors]
  constructor
  · rintro ⟨hn, htree, hm, hsuffix, hne⟩
    exact ⟨(has_iff_of_tree htree).mpr hm, htree, hn, hsuffix, fun heq => hne (congrArg _ heq)⟩
  · rintro ⟨hm, htree, hn, hsuffix, hne⟩
    exact ⟨hn, htree, (has_iff_of_tree htree).mp hm, hsuffix,
      fun heq => hne (Node.eq_of_trees hn htree heq)⟩

theorem ascending_descendants (d : Document) (n : Node) : Node.Ascending (d.descendants n) := by
  unfold descendants
  cases n.isAttribute with
  | true => exact Node.ascending_nil
  | false =>
    rw [if_neg Bool.false_ne_true, Tree.subforest_eq_filter]
    exact (ascending_forestNodes_of_forall (fun _ _ => ascending_allNodes) rfl).filter _

theorem mem_descendantsOrSelf (hn : n.isAttribute = false) (hpath : d.HasPath n.path) :
    m ∈ d.descendantsOrSelf n ↔
      m.isAttribute = false ∧ d.HasPath m.path ∧ n.path <:+ m.path := by
  unfold descendantsOrSelf
  rw [List.mem_cons, mem_descendants]
  constructor
  · rintro (rfl | ⟨-, htree, hm, hholds⟩)
    · exact ⟨hn, hpath, List.suffix_refl _⟩
    · exact ⟨htree, hm, hholds.1⟩
  · rintro ⟨htree, hm, hsuffix⟩
    by_cases heq : n.path = m.path
    · exact .inl (Node.eq_of_trees htree hn heq.symm)
    · exact .inr ⟨hn, htree, hm, hsuffix, heq⟩

theorem ascending_descendantsOrSelf (d : Document) (n : Node) :
    Node.Ascending (d.descendantsOrSelf n) :=
  Node.ascending_cons.mpr
    ⟨fun _ hm => (mem_descendants.mp hm).2.2.2.before, ascending_descendants d n⟩

/-! ## siblings and what lies in them -/

theorem siblings_of_attribute (h : n.isAttribute = true) : d.siblings n = [] := by
  unfold siblings
  rw [if_pos h]

theorem siblings_cons (i : Nat) (path : List Nat) :
    d.siblings ⟨i :: path, 0⟩ =
      (List.range (d.below path).length).map fun k => ⟨k :: path, 0⟩ := rfl

/-- only the branches of a tree have siblings -/
theorem siblings_cases (d : Document) (n : Node) : d.siblings n = [] ∨ ∃ i r, n = ⟨i :: r, 0⟩ := by
  cases hn : n.isAttribute with
  | true => exact .inl (siblings_of_attribute hn)
  | false =>
    obtain ⟨path, slot⟩ := n
    obtain rfl : slot = 0 := Node.isAttribute_eq_false_iff.mp hn
    cases path with
    | nil => exact .inl rfl
    | cons i r => exact .inr ⟨i, r, rfl⟩

/-- what lies in the siblings of a node on one side -/
def beside (d : Document) (side : Node → Node → Bool) (n : Node) : List Node :=
  ((d.siblings n).filter (side n)).flatMap d.descendantsOrSelf

theorem mem_beside {side : Node → Node → Bool} : x ∈ d.beside side n ↔
    ∃ r i k, n = ⟨i :: r, 0⟩ ∧ side n ⟨k :: r, 0⟩ = true ∧
      x.isAttribute = false ∧ d.HasPath x.path ∧ (k :: r) <:+ x.path := by
  unfold beside
  rw [List.mem_flatMap]
  constructor
  · rintro ⟨s, hs, hx⟩
    obtain ⟨hsibling, hside⟩ := List.mem_filter.mp hs
    rcases d.siblings_cases n with hempty | ⟨i, r, rfl⟩
    · rw [hempty] at hsibling
      exact absurd hsibling List.not_mem_nil
    · rw [siblings_cons] at hsibling
      obtain ⟨k, hk, rfl⟩ := List.mem_map.mp hsibling
      have hpath : d.HasPath (k :: r) := List.mem_range.mp hk
      exact ⟨r, i, k, rfl, hside, (mem_descendantsOrSelf rfl hpath).mp hx⟩
  · rintro ⟨r, i, k, rfl, hside, htree, hx, hk⟩
    have hpath : d.HasPath (k :: r) := hx.of_suffix hk
    refine ⟨⟨k :: r, 0⟩, List.mem_filter.mpr ⟨?_, hside⟩,
      (mem_descendantsOrSelf rfl hpath).mpr ⟨htree, hx, hk⟩⟩
    rw [siblings_cons]
    exact List.mem_map.mpr ⟨k, List.mem_range.mpr hpath, rfl⟩

/-- what lies beside a node lies in all that the node lies in -/
theorem suffix_of_mem_beside {side : Node → Node → Bool} {c : Node} (h : x ∈ d.beside side n)
    (hc : c.Holds n) : c.path <:+ x.path := by
  obtain ⟨r, i, k, rfl, -, -, -, hk⟩ := mem_beside.mp h
  exact (suffix_iff_of_cons.mpr hc).trans (suffix_cons_cons hk)

theorem pairwise_siblings (d : Document) (n : Node) :
    (d.siblings n).Pairwise fun a b => Node.Left a b := by
  rcases d.siblings_cases n with hempty | ⟨i, r, rfl⟩
  · rw [hempty]
    exact List.Pairwise.nil
  · rw [siblings_cons]
    refine List.pairwise_map.mpr (List.pairwise_lt_range.imp fun {k l} hkl => ?_)
    exact ⟨r, k, l, hkl, List.suffix_refl _, List.suffix_refl _⟩

theorem suffix_of_mem_descendantsOrSelf (h : m ∈ d.descendantsOrSelf n) : n.path <:+ m.path := by
  rcases List.mem_cons.mp h with rfl | h
  · exact List.suffix_refl _
  · exact (mem_descendants.mp h).2.2.2.1

theorem ascending_beside (d : Document) (side : Node → Node → Bool) (n : Node) :
    Node.Ascending (d.beside side n) := by
  refine List.pairwise_flatMap.mpr ⟨fun s _ => ascending_descendantsOrSelf d s, ?_⟩
  refine ((pairwise_siblings d n).filter _).imp fun {s t} hst a ha b hb => ?_
  have hleft := hst.mono (suffix_of_mem_descendantsOrSelf ha) (suffix_of_mem_descendantsOrSelf hb)
  exact hleft.before

/-- beside the trees from a node up to the root lies all that lies in other branches, on the side
that is asked for -/
theorem mem_flatMap_beside {side : Node → Node → Bool} :
    x ∈ (Node.around (0 :: n.path)).flatMap (d.beside side) ↔
      x.isAttribute = false ∧ d.HasPath x.path ∧ ∃ r i k, side ⟨i :: r, 0⟩ ⟨k :: r, 0⟩ = true ∧
        (i :: r) <:+ n.path ∧ (k :: r) <:+ x.path := by
  rw [List.mem_flatMap]
  constructor
  · rintro ⟨c, hc, hx⟩
    obtain ⟨r, i, k, rfl, hside, htree, hpath, hk⟩ := mem_beside.mp hx
    exact ⟨htree, hpath, r, i, k, hside, (Node.mem_around_cons.mp hc).2, hk⟩
  · rintro ⟨htree, hpath, r, i, k, hside, hi, hk⟩
    exact ⟨⟨i :: r, 0⟩, Node.mem_around_cons.mpr ⟨rfl, hi⟩,
      mem_beside.mpr ⟨r, i, k, rfl, hside, htree, hpath, hk⟩⟩

/-! ## what follows and what precedes -/

theorem before_branch_iff {i k : Nat} {r : List Nat} :
    Node.before ⟨i :: r, 0⟩ ⟨k :: r, 0⟩ = true ↔ i < k := by
  have hleft {i k : Nat} (h : i < k) : Node.Left ⟨i :: r, 0⟩ ⟨k :: r, 0⟩ :=
    ⟨r, i, k, h, List.suffix_refl _, List.suffix_refl _⟩
  constructor
  · intro hbefore
    by_contra hle
    rcases Nat.eq_or_lt_of_le (Nat.le_of_not_lt hle) with rfl | hlt
    · exact Node.not_before_self _ hbefore
    · exact Node.not_before_of_before hbefore (hleft hlt).before
  · exact fun h => (hleft h).before

theorem beside_of_attribute {side : Node → Node → Bool} (h : n.isAttribute = true) :
    d.beside side n = [] := by
  unfold beside
  rw [siblings_of_attribute h]
  rfl

theorem following_eq (d : Document) (n : Node) :
    d.following n = (if n.isAttribute then d.descendants n.owner else []) ++
      (Node.around (0 :: n.path)).flatMap (d.beside Node.before) := by
  show _ ++ n.ancestorsOrSelf.flatMap (d.beside Node.before) = _
  rw [Node.ancestorsOrSelf_eq, List.flatMap_append]
  cases hn : n.isAttribute with
  | true =>
    rw [if_pos rfl, if_pos rfl, List.flatMap_singleton, beside_of_attribute hn, List.nil_append]
  | false => rfl

/-- from the outside to the inside, what precedes a node stands in document order -/
theorem reverse_preceding (d : Document) (n : Node) :
    (d.preceding n).reverse =
      (Node.around (0 :: n.path)).reverse.flatMap (d.beside fun m s => s.before m) := by
  have hblock : (fun m => (d.precedingSiblings m).reverse.flatMap d.descendantsOrSelf) =
      d.beside fun m s => s.before m := by
    funext m
    unfold precedingSiblings beside
    rw [List.reverse_reverse]
  unfold preceding
  rw [List.reverse_reverse, hblock, Node.ancestorsOrSelf_eq, List.reverse_append,
    List.flatMap_append]
  cases hn : n.isAttribute with
  | true =>
    rw [if_pos rfl, List.reverse_singleton, List.flatMap_singleton, beside_of_attribute hn,
      List.append_nil]
  | false =>
    rw [if_neg Bool.false_ne_true]
    exact List.append_nil _

theorem left_of_mem_beside (h : x ∈ d.beside Node.before n) : n.Left x := by
  obtain ⟨r, i, k, rfl, hside, -, -, hk⟩ := mem_beside.mp h
  exact ⟨r, i, k, before_branch_iff.mp hside, List.suffix_refl _, hk⟩

theorem left_of_mem_beside_before (h : x ∈ d.beside (fun m s => s.before m) n) : x.Left n := by
  obtain ⟨r, i, k, rfl, hside, -, -, hk⟩ := mem_beside.mp h
  exact ⟨r, k, i, before_branch_iff.mp hside, hk, List.suffix_refl _⟩

theorem mem_later : x ∈ (Node.around (0 :: n.path)).flatMap (d.beside Node.before) ↔
    x.isAttribute = false ∧ d.HasPath x.path ∧ n.Left x := by
  rw [mem_flatMap_beside]
  simp only [before_branch_iff]
  rfl

theorem mem_earlier : x ∈ (Node.around (0 :: n.path)).flatMap (d.beside fun m s => s.before m) ↔
    x.isAttribute = false ∧ d.HasPath x.path ∧ x.Left n := by
  rw [mem_flatMap_beside]
  simp only [before_branch_iff]
  refine and_congr_right fun _ => and_congr_right fun _ => ?_
  constructor
  · rintro ⟨r, i, k, hki, hi, hk⟩
    exact ⟨r, k, i, hki, hk, hi⟩
  · rintro ⟨r, k, i, hki, hk, hi⟩
    exact ⟨r, i, k, hki, hi, hk⟩

theorem mem_following : x ∈ d.following n ↔ x.isAttribute = false ∧ d.HasPath x.path ∧
    (n.isAttribute = true ∧ n.Holds x ∨ n.Left x) := by
  rw [following_eq, List.mem_append, mem_later]
  cases n.isAttribute with
  | true =>
    have howner : x ∈ d.descendants n.owner ↔
        x.isAttribute = false ∧ d.HasPath x.path ∧ n.Holds x :=
      mem_descendants.trans (and_iff_right rfl)
    rw [if_pos rfl, howner]
    tauto
  | false =>
    rw [if_neg Bool.false_ne_true]
    simp

theorem mem_preceding : x ∈ d.preceding n ↔
    x.isAttribute = false ∧ d.HasPath x.path ∧ x.Left n := by
  rw [← mem_earlier, ← List.mem_reverse, reverse_preceding, List.mem_flatMap, List.mem_flatMap]
  simp only [List.mem_reverse]

theorem ascending_following (d : Document) (n : Node) : Node.Ascending (d.following n) := by
  rw [following_eq]
  refine List.pairwise_append.mpr ⟨?_, ?_, fun x hx y hy => ?_⟩
  · cases n.isAttribute with
    | true => exact ascending_descendants d n.owner
    | false => exact Node.ascending_nil
  · -- the branches further out are all later than those further in
    refine List.pairwise_flatMap.mpr ⟨fun c _ => ascending_beside d Node.before c, ?_⟩
    refine (Node.pairwise_around _).imp fun {a b} hholds x hx y hy => ?_
    have hleft : x.Left y :=
      (left_of_mem_beside hy).mono (suffix_of_mem_beside hx hholds) (List.suffix_refl _)
    exact hleft.before
  · cases hn : n.isAttribute with
    | true =>
      rw [hn, if_pos rfl] at hx
      have hholds : n.path <:+ x.path := (mem_descendants.mp hx).2.2.2.1
      exact ((mem_later.mp hy).2.2.mono hholds (List.suffix_refl _)).before
    | false =>
      rw [hn] at hx
      exact absurd hx List.not_mem_nil

theorem ascending_reverse_preceding (d : Document) (n : Node) :
    Node.Ascending (d.preceding n).reverse := by
  rw [reverse_preceding]
  refine List.pairwise_flatMap.mpr ⟨fun c _ => ascending_beside d _ c, ?_⟩
  -- here the trees come from the outside to the inside: `b` is the outer one
  refine List.pairwise_reverse.mpr ((Node.pairwise_around _).imp fun {a b} hholds x hx y hy => ?_)
  have hleft : x.Left y :=
    (left_of_mem_beside_before hx).mono (List.suffix_refl _) (suffix_of_mem_beside hy hholds)
  exact hleft.before

/-! ## before and after a node -/

/-- after a node follow the trees that come after it and do not lie in it -/
theorem mem_following_iff : x ∈ d.following n ↔
    d.Has x ∧ x.isAttribute = false ∧ n.before x = true ∧ x ∉ d.descendants n := by
  rw [mem_following, mem_descendants]
  constructor
  · rintro ⟨htree, hpath, hplace⟩
    refine ⟨(has_iff_of_tree htree).mpr hpath, htree, ?_, ?_⟩
    · exact hplace.elim (fun h => h.2.before) Node.Left.before
    · rintro ⟨hn, -, -, hholds⟩
      rcases hplace with ⟨hn', -⟩ | hleft
      · rw [hn] at hn'
        cases hn'
      · exact hleft.not_suffix.1 hholds.1
  · rintro ⟨hx, htree, hbefore, hnot⟩
    have hpath := (has_iff_of_tree htree).mp hx
    refine ⟨htree, hpath, ?_⟩
    rcases Node.place_cases n x with heq | hholds | hholds | hleft | hleft
    · have hslot := (Node.before_iff_of_path_eq heq).mp hbefore
      rw [Node.isAttribute_eq_false_iff.mp htree] at hslot
      omega
    · cases hn : n.isAttribute with
      | true => exact .inl ⟨rfl, hholds⟩
      | false => exact absurd ⟨hn, htree, hpath, hholds⟩ hnot
    · exact absurd hholds.before (Node.not_before_of_before hbefore)
    · exact .inr hleft
    · exact absurd hleft.before (Node.not_before_of_before hbefore)

/-- before a node precede the trees that come before it and do not hold it -/
theorem mem_preceding_iff : x ∈ d.preceding n ↔
    d.Has x ∧ x.isAttribute = false ∧ x.before n = true ∧ x ∉ n.ancestors := by
  rw [mem_preceding, Node.mem_ancestors]
  constructor
  · rintro ⟨htree, hpath, hleft⟩
    exact ⟨(has_iff_of_tree htree).mpr hpath, htree, hleft.before,
      fun h => hleft.not_suffix.1 h.2.1⟩
  · rintro ⟨hx, htree, hbefore, hnot⟩
    have hne : x ≠ n := by
      rintro rfl
      exact Node.not_before_self x hbefore
    have hsuffix : ¬ x.path <:+ n.path := fun h => hnot ⟨htree, h, hne⟩
    refine ⟨htree, (has_iff_of_tree htree).mp hx, ?_⟩
    rcases Node.place_cases x n with heq | hholds | hholds | hleft | hleft
    · exact absurd (heq ▸ List.suffix_refl _) hsuffix
    · exact absurd hholds.1 hsuffix
    · exact absurd hholds.before (Node.not_before_of_before hbefore)
    · exact hleft
    · exact absurd hleft.before (Node.not_before_of_before hbefore)

theorem before_of_mem_descendants (h : x ∈ d.descendants n) : n.before x = true :=
  (mem_descendants.mp h).2.2.2.before

theorem before_of_mem_following (h : x ∈ d.following n) : n.before x = true :=
  (mem_following_iff.mp h).2.2.1

theorem before_of_mem_preceding (h : x ∈ d.preceding n) : x.before n = true :=
  (mem_preceding_iff.mp h).2.2.1

/-- a node of a document lies in nodes of the document -/
theorem has_of_mem_ancestors (hn : d.Has n) (h : x ∈ n.ancestors) : d.Has x := by
  obtain ⟨htree, hpath, -⟩ := Node.mem_ancestors.mp h
  exact (has_iff_of_tree htree).mpr (hn.1.of_suffix hpath)

/-! ## the five axes -/

/-- no axis gives a node twice -/
theorem nodup_along (d : Document) (n : Node) : ∀ a ∈ Axis.partition, (d.along n a).Nodup := by
  have hpreceding : (d.preceding n).Nodup :=
    List.nodup_reverse.mp (ascending_reverse_preceding d n).nodup
  simp only [Axis.partition, List.forall_mem_cons]
  exact ⟨List.nodup_singleton n, n.nodup_ancestors, (ascending_descendants d n).nodup, hpreceding,
    (ascending_following d n).nodup, nofun⟩

/-- document order tells what comes before the node from what comes after it, and the two axes on
one side exclude each other -/
theorem disjoint_along (d : Document) (n : Node) :
    Axis.partition.Pairwise fun a b => (d.along n a).Disjoint (d.along n b) := by
  have hself {ms : List Node} (h : ∀ m ∈ ms, m.before n = true ∨ n.before m = true) :
      [n].Disjoint ms :=
    List.singleton_disjoint.mpr fun hn =>
      (h n hn).elim (Node.not_before_self n) (Node.not_before_self n)
  have hsides {ms ks : List Node} (hms : ∀ m ∈ ms, m.before n = true)
      (hks : ∀ k ∈ ks, n.before k = true) : ms.Disjoint ks :=
    fun m hm hk => Node.not_before_of_before (hms m hm) (hks m hk)
  have hbefore (m : Node) : m ∈ n.ancestors → m.before n = true := Node.before_of_mem_ancestors
  have hpreceding (m : Node) : m ∈ d.preceding n → m.before n = true := before_of_mem_preceding
  have hafter (m : Node) : m ∈ d.descendants n → n.before m = true := before_of_mem_descendants
  have hfollowing (m : Node) : m ∈ d.following n → n.before m = true := before_of_mem_following
  simp only [Axis.partition, List.pairwise_cons, List.forall_mem_cons]
  refine ⟨⟨?_, ?_, ?_, ?_, nofun⟩, ⟨?_, ?_, ?_, nofun⟩, ⟨?_, ?_, nofun⟩, ⟨?_, nofun⟩, nofun,
    List.Pairwise.nil⟩
  · exact hself fun m hm => .inl (hbefore m hm)
  · exact hself fun m hm => .inr (hafter m hm)
  · exact hself fun m hm => .inl (hpreceding m hm)
  · exact hself fun m hm => .inr (hfollowing m hm)
  · exact hsides hbefore hafter
  · exact fun m hm hm' => (mem_preceding_iff.mp hm').2.2.2 hm
  · exact hsides hbefore hfollowing
  · exact fun m hm hm' => hsides hpreceding hafter hm' hm
  · exact fun m hm hm' => (mem_following_iff.mp hm').2.2.2 hm
  · exact hsides hpreceding hfollowing

/-- the axes give the node and all trees of the document -/
theorem mem_along_partition (hn : d.Has n) (m : Node) :
    (∃ a ∈ Axis.partition, m ∈ d.along n a) ↔ m = n ∨ d.Has m ∧ m.isAttribute = false := by
  have hcases : (∃ a ∈ Axis.partition, m ∈ d.along n a) ↔ m = n ∨ m ∈ n.ancestors ∨
      m ∈ d.descendants n ∨ m ∈ d.preceding n ∨ m ∈ d.following n := by
    simp [Axis.partition, along]
  rw [hcases]
  constructor
  · rintro (heq | h | h | h | h)
    · exact .inl heq
    · exact .inr ⟨has_of_mem_ancestors hn h, (Node.mem_ancestors.mp h).1⟩
    · obtain ⟨-, htree, hpath, -⟩ := mem_descendants.mp h
      exact .inr ⟨(has_iff_of_tree htree).mpr hpath, htree⟩
    · obtain ⟨hm, htree, -⟩ := mem_preceding_iff.mp h
      exact .inr ⟨hm, htree⟩
    · obtain ⟨hm, htree, -⟩ := mem_following_iff.mp h
      exact .inr ⟨hm, htree⟩
  · rintro (heq | ⟨hm, htree⟩)
    · exact .inl heq
    · rcases Node.before_cases m n with hbefore | heq | hafter
      · by_cases h : m ∈ n.ancestors
        · exact .inr (.inl h)
        · exact .inr (.inr (.inr (.inl (mem_preceding_iff.mpr ⟨hm, htree, hbefore, h⟩))))
      · exact .inl heq
      · by_cases h : m ∈ d.descendants n
        · exact .inr (.inr (.inl h))
        · exact .inr (.inr (.inr (.inr (mem_following_iff.mpr ⟨hm, htree, hafter, h⟩))))

/-- **The axes divide a document up.**  Seen from one of its nodes, they give every tree of the
document on one axis and once, and nothing else but the node: its parent and what this lies in, the
trees that have it for an ancestor, and of the others those before it and those after it. -/
theorem along_partition (d : Document) (n : Node) (h : n ∈ d.nodes) :
    (∀ a ∈ Axis.partition, (d.along n a).Nodup) ∧
    Axis.partition.Pairwise (fun a b => (d.along n a).Disjoint (d.along n b)) ∧
    (∀ m, (∃ a ∈ Axis.partition, m ∈ d.along n a) ↔
      m = n ∨ m ∈ d.nodes ∧ m.isAttribute = false) ∧
    (∀ m, m ∈ d.along n .following ↔
      m ∈ d.nodes ∧ m.isAttribute = false ∧ n.before m = true ∧ m ∉ d.along n .descendant) ∧
    (∀ m, m ∈ d.along n .preceding ↔
      m ∈ d.nodes ∧ m.isAttribute = false ∧ m.before n = true ∧ m ∉ d.along n .ancestor) ∧
    (∀ m, m ∈ d.along n .descendant ↔
      m ∈ d.nodes ∧ m.isAttribute = false ∧ n ∈ d.along m .ancestor) ∧
    (∀ m, m ∈ d.along n .ancestor ↔
      ∃ p, n.parent? = some p ∧ (m = p ∨ m ∈ d.along p .ancestor)) := by
  simp only [mem_nodes]
  have hn : d.Has n := mem_nodes.mp h
  exact ⟨nodup_along d n, disjoint_along d n, mem_along_partition hn, fun _ => mem_following_iff,
    fun _ => mem_preceding_iff, fun _ => mem_descendants_iff_ancestors,
    fun _ => Node.mem_ancestors_iff_parent⟩

/-- seen from the second attribute of the first item, the content of the item follows -/
theorem along_partition_invoice :
    (⟨[0, 0], 2⟩ : Node) ∈ invoice.nodes ∧
    (∀ m, m ∈ invoice.along ⟨[0, 0], 2⟩ .following ↔ m ∈ invoice.nodes ∧ m.isAttribute = false ∧
      Node.before ⟨[0, 0], 2⟩ m = true ∧ m ∉ invoice.along ⟨[0, 0], 2⟩ .descendant) ∧
    (⟨[0, 0, 0], 0⟩ : Node) ∈ invoice.along ⟨[0, 0], 2⟩ .following :=
  have hn : (⟨[0, 0], 2⟩ : Node) ∈ invoice.nodes := by decide
  ⟨hn, (along_partition invoice ⟨[0, 0], 2⟩ hn).2.2.2.1, by decide⟩

end Document

end Rulebook
