import Mathlib.Data.List.Infix
import Rulebook.Proofs.Document.Order

/-!
# Places in a document

A node is the place of something, so where two nodes stand to each other can be read off their
paths: the tree of one lies in that of the other, or they lie in different branches of one tree.

* `Node.Holds`     the tree of the second node lies in that of the first;
* `Node.Left`      they lie in different branches, the first node in the earlier one;
* `Document.Has`   the places where a document has something.

`Node.place_cases`: two nodes of different paths stand to each other in one of these ways, and each
of them decides document order (`Holds.before`, `Left.before`).  `mem_nodes`: **the nodes of a
document are the places where it has something.**
-/

set_option autoImplicit false

namespace Rulebook

/-! ## paths -/

section
variable {p q r : List Nat} {i j : Nat}

theorem suffix_cons_cons (h : (i :: p) <:+ q) : p <:+ q := (List.suffix_cons i p).trans h

theorem suffix_iff_of_cons : p <:+ q ↔ p <:+ i :: q ∧ p ≠ i :: q := by
  constructor
  · intro h
    refine ⟨h.trans (List.suffix_cons i q), fun heq => ?_⟩
    have hlength := h.length_le
    rw [heq, List.length_cons] at hlength
    omega
  · rintro ⟨h, hne⟩
    exact (List.suffix_cons_iff.mp h).resolve_left hne

/-- below a path stands one of its branches -/
theorem exists_branch (h : p <:+ q) (hne : p ≠ q) : ∃ i, (i :: p) <:+ q := by
  obtain ⟨front, rfl⟩ := h
  rcases List.eq_nil_or_concat front with rfl | ⟨front, i, rfl⟩
  · exact absurd rfl hne
  · exact ⟨i, front, by simp⟩

/-- a path lies in one branch of a tree at most -/
theorem branch_eq (hi : (i :: p) <:+ q) (hj : (j :: p) <:+ q) : i = j := by
  have hsuffix := List.suffix_of_suffix_length_le hi hj (le_refl _)
  exact (List.cons.inj (hsuffix.eq_of_length rfl)).1

/-- two paths of which none goes on from the other branch somewhere -/
theorem suffix_cases (p q : List Nat) : p <:+ q ∨ q <:+ p ∨
    ∃ r i j, i ≠ j ∧ (i :: r) <:+ p ∧ (j :: r) <:+ q := by
  induction p using List.reverseRecOn generalizing q with
  | nil => exact .inl List.nil_suffix
  | append_singleton p i ih =>
    rcases List.eq_nil_or_concat q with rfl | ⟨q, j, rfl⟩
    · exact .inr (.inl List.nil_suffix)
    · rw [List.concat_eq_append]
      by_cases hij : i = j
      · subst hij
        rcases ih q with h | h | ⟨r, k, l, hkl, hk, hl⟩
        · exact .inl (List.suffix_append_self_iff.mpr h)
        · exact .inr (.inl (List.suffix_append_self_iff.mpr h))
        · exact .inr (.inr ⟨r ++ [i], k, l, hkl, List.suffix_append_self_iff.mpr hk,
            List.suffix_append_self_iff.mpr hl⟩)
      · exact .inr (.inr ⟨[], i, j, hij, List.suffix_append p [i], List.suffix_append q [j]⟩)

end

/-! ## where two nodes stand to each other -/

namespace Node

/-- the tree of the second node lies in that of the first -/
def Holds (a b : Node) : Prop := a.path <:+ b.path ∧ a.path ≠ b.path

/-- the nodes lie in different branches of some tree, the first node in the earlier one -/
def Left (a b : Node) : Prop := ∃ r i j, i < j ∧ (i :: r) <:+ a.path ∧ (j :: r) <:+ b.path

variable {a b c : Node}

theorem isAttribute_eq_false_iff : a.isAttribute = false ↔ a.slot = 0 := bne_eq_false_iff_eq

/-- what lies in a tree lies in one of its branches -/
theorem holds_iff : a.Holds b ↔ ∃ i, (i :: a.path) <:+ b.path := by
  constructor
  · exact fun h => exists_branch h.1 h.2
  · rintro ⟨i, h⟩
    refine ⟨suffix_cons_cons h, fun hpath => ?_⟩
    have hlength := h.length_le
    rw [hpath, List.length_cons] at hlength
    omega

theorem place_cases (a b : Node) :
    a.path = b.path ∨ a.Holds b ∨ b.Holds a ∨ a.Left b ∨ b.Left a := by
  by_cases hpath : a.path = b.path
  · exact .inl hpath
  · rcases suffix_cases a.path b.path with h | h | ⟨r, i, j, hij, hi, hj⟩
    · exact .inr (.inl ⟨h, hpath⟩)
    · exact .inr (.inr (.inl ⟨h, Ne.symm hpath⟩))
    · rcases Nat.lt_or_gt_of_ne hij with h | h
      · exact .inr (.inr (.inr (.inl ⟨r, i, j, h, hi, hj⟩)))
      · exact .inr (.inr (.inr (.inr ⟨r, j, i, h, hj, hi⟩)))

/-- what lies in nodes of different branches lies in these branches -/
theorem Left.mono (h : a.Left b) {a' b' : Node} (ha : a.path <:+ a'.path)
    (hb : b.path <:+ b'.path) : a'.Left b' := by
  obtain ⟨r, i, j, hij, hi, hj⟩ := h
  exact ⟨r, i, j, hij, hi.trans ha, hj.trans hb⟩

/-- nodes of different branches do not lie in each other -/
theorem Left.not_suffix (h : a.Left b) : ¬ a.path <:+ b.path ∧ ¬ b.path <:+ a.path := by
  obtain ⟨r, i, j, hij, hi, hj⟩ := h
  constructor
  · intro hab
    have heq : i = j := branch_eq (hi.trans hab) hj
    omega
  · intro hba
    have heq : i = j := branch_eq hi (hj.trans hba)
    omega

/-! ## document order -/

theorem comparePaths_append (p q r : List Nat) : comparePaths (p ++ r) (q ++ r) = comparePaths p q := by
  induction r using List.reverseRecOn with
  | nil => rw [List.append_nil, List.append_nil]
  | append_singleton r i ih =>
    have hself : Ord.compare i i = .eq := Nat.compare_eq_eq.mpr rfl
    rw [← List.append_assoc, ← List.append_assoc, comparePaths_concat, hself, ih]
    rfl

theorem Left.before (h : a.Left b) : a.before b = true := by
  obtain ⟨r, i, j, hij, ⟨p, hp⟩, q, hq⟩ := h
  have hlt : comparePaths a.path b.path = .lt := by
    have hcompare : Ord.compare i j = .lt := Nat.compare_eq_lt.mpr hij
    rw [← hp, ← hq, ← List.singleton_append, ← List.append_assoc, ← List.singleton_append (l := r),
      ← List.append_assoc, comparePaths_append, comparePaths_concat, hcompare]
    rfl
  rw [before_iff]
  unfold Node.compare
  rw [hlt]
  rfl

theorem Holds.before (h : a.Holds b) : a.before b = true := by
  obtain ⟨⟨p, hp⟩, hne⟩ := h
  have hlt : comparePaths a.path b.path = .lt := by
    have hpne : p ≠ [] := by
      rintro rfl
      exact hne hp
    have hempty : comparePaths [] p = Ord.compare 0 p.length := by
      unfold comparePaths
      rw [List.drop_nil]
      rfl
    rw [← hp, ← List.nil_append a.path, ← List.append_assoc, comparePaths_append, List.append_nil,
      hempty]
    exact Nat.compare_eq_lt.mpr (List.length_pos_of_ne_nil hpne)
  rw [before_iff]
  unfold Node.compare
  rw [hlt]
  rfl

/-- a tree and its attributes stand in the order of their slots -/
theorem before_iff_of_path_eq (h : a.path = b.path) : a.before b = true ↔ a.slot < b.slot := by
  have heq : comparePaths a.path b.path = .eq := by
    have hself := comparePaths_append [] [] b.path
    rw [h]
    exact hself
  rw [before_iff]
  unfold Node.compare
  rw [heq]
  exact Nat.compare_eq_lt

theorem not_before_of_before (h : a.before b = true) : ¬ b.before a = true := fun h' =>
  not_before_self a (before_trans h h')

theorem before_cases (a b : Node) : a.before b = true ∨ a = b ∨ b.before a = true := by
  rw [before_iff, before_iff]
  cases hab : a.compare b with
  | lt => exact .inl rfl
  | eq => exact .inr (.inl (Std.LawfulEqCmp.eq_of_compare hab))
  | gt => exact .inr (.inr (Std.OrientedCmp.lt_of_gt hab))

end Node

/-! ## trees -/

namespace Tree

theorem induction {P : Tree → Prop} (step : ∀ t, (∀ s ∈ t.children, P s) → P t) (t : Tree) : P t := by
  refine step t fun s hs => ?_
  have hlt : sizeOf s < sizeOf t := by
    cases t with
    | element name attributes children =>
      have hmem : s ∈ children := hs
      have hsize := List.sizeOf_lt_of_mem hmem
      rw [element.sizeOf_spec]
      omega
    | text _ | comment _ | instruction _ _ => exact absurd hs List.not_mem_nil
  exact induction step s
termination_by sizeOf t

/-- a tree and its attributes come before what lies in it -/
theorem allNodes_eq (path : List Nat) (t : Tree) :
    t.allNodes path = (List.range (t.attributes.length + 1)).map (Node.mk path) ++
      forestNodes path 0 t.children := by
  rw [List.range_succ_eq_map, List.map_cons, List.map_map]
  cases t <;> rfl

theorem subtree_eq (path : List Nat) (t : Tree) :
    t.subtree path = ⟨path, 0⟩ :: subforest path 0 t.children := by
  cases t <;> rfl

theorem subforest_eq_of_forall {ts : List Tree}
    (h : ∀ t ∈ ts, ∀ path, t.subtree path = (t.allNodes path).filter (!·.isAttribute))
    (path : List Nat) (i : Nat) :
    subforest path i ts = (forestNodes path i ts).filter (!·.isAttribute) := by
  induction ts generalizing i with
  | nil => rfl
  | cons t ts ih =>
    obtain ⟨ht, hts⟩ := List.forall_mem_cons.mp h
    rw [subforest, forestNodes, List.filter_append, ht, ih hts]

theorem subtree_eq_filter (t : Tree) (path : List Nat) :
    t.subtree path = (t.allNodes path).filter (!·.isAttribute) := by
  induction t using Tree.induction generalizing path with
  | step t ih =>
    have htree : ((List.range (t.attributes.length + 1)).map (Node.mk path)).filter
        (!·.isAttribute) = [⟨path, 0⟩] := by
      rw [List.range_succ_eq_map, List.map_cons, List.map_map, List.filter_cons_of_pos rfl,
        List.filter_eq_nil_iff.mpr]
      intro n hn
      obtain ⟨i, -, rfl⟩ := List.mem_map.mp hn
      exact Bool.false_ne_true
    rw [subtree_eq, allNodes_eq, List.filter_append, htree, subforest_eq_of_forall ih]
    rfl

/-- leaving out the attributes of all nodes leaves the trees -/
theorem subforest_eq_filter (ts : List Tree) (path : List Nat) (i : Nat) :
    subforest path i ts = (forestNodes path i ts).filter (!·.isAttribute) :=
  subforest_eq_of_forall (fun t _ => t.subtree_eq_filter) path i

end Tree

/-! ## the places of a document -/

namespace Document

variable (d : Document)

/-- the path leads to a tree, or to the root -/
def HasPath : List Nat → Prop
  | [] => True
  | i :: path => i < (d.below path).length

/-- how many attributes the tree at a path has -/
def attributeCount (path : List Nat) : Nat := (d.tree? path).elim 0 fun t => t.attributes.length

/-- the place is that of a tree or of an attribute -/
def Has (n : Node) : Prop := d.HasPath n.path ∧ n.slot ≤ d.attributeCount n.path

variable {d} {path p q : List Nat} {t : Tree} {n m : Node}

theorem has_iff_of_tree (h : m.isAttribute = false) : d.Has m ↔ d.HasPath m.path := by
  unfold Has
  rw [Node.isAttribute_eq_false_iff.mp h]
  exact and_iff_left (Nat.zero_le _)

theorem hasPath_of_lt {i : Nat} (h : i < (d.below path).length) : d.HasPath path := by
  cases path with
  | nil => exact trivial
  | cons j path =>
    unfold below at h
    by_contra hj
    rw [List.getElem?_eq_none (Nat.le_of_not_lt hj)] at h
    exact absurd h (Nat.not_lt_zero i)

/-- what a path leads through is there -/
theorem HasPath.of_suffix (h : d.HasPath q) (hpq : p <:+ q) : d.HasPath p := by
  induction q with
  | nil =>
    rw [List.suffix_nil.mp hpq]
    exact trivial
  | cons i q ih =>
    rcases List.suffix_cons_iff.mp hpq with rfl | hpq
    · exact h
    · exact ih (hasPath_of_lt h) hpq

theorem tree?_of_drop {i : Nat} {ts : List Tree} (h : (d.below path).drop i = t :: ts) :
    d.tree? (i :: path) = some t ∧ (d.below path).drop (i + 1) = ts := by
  have hlt : i < (d.below path).length := by
    have hlength := congrArg List.length h
    rw [List.length_drop, List.length_cons] at hlength
    omega
  rw [List.drop_eq_getElem_cons hlt] at h
  obtain ⟨ht, hts⟩ := List.cons.inj h
  exact ⟨(List.getElem?_eq_getElem hlt).trans (congrArg some ht), hts⟩

theorem below_of_tree? (h : d.tree? path = some t) : d.below path = t.children := by
  cases path with
  | nil => cases h
  | cons i path =>
    have h : (d.below path)[i]? = some t := h
    unfold below
    rw [h]

theorem hasPath_of_tree? (h : d.tree? path = some t) : d.HasPath path := by
  cases path with
  | nil => exact trivial
  | cons i path => exact (List.getElem?_eq_some_iff.mp h).1

theorem attributeCount_of_tree? (h : d.tree? path = some t) :
    d.attributeCount path = t.attributes.length := by
  unfold attributeCount
  rw [h]
  rfl

/-- the places of a list of trees are those in their branches, if this is so for each tree -/
theorem mem_forestNodes_of_forall {ts : List Tree} {i : Nat}
    (h : ∀ t ∈ ts, ∀ {path : List Nat}, d.tree? path = some t →
      ∀ m, m ∈ t.allNodes path ↔ path <:+ m.path ∧ d.Has m)
    (hts : (d.below path).drop i = ts) (m : Node) :
    m ∈ Tree.forestNodes path i ts ↔ (∃ j, i ≤ j ∧ (j :: path) <:+ m.path) ∧ d.Has m := by
  induction ts generalizing i with
  | nil =>
    refine iff_of_false List.not_mem_nil ?_
    rintro ⟨⟨j, hij, hj⟩, hm⟩
    have hlt : j < (d.below path).length := hm.1.of_suffix hj
    have hle := List.drop_eq_nil_iff.mp hts
    omega
  | cons t ts ih =>
    obtain ⟨ht, hrest⟩ := tree?_of_drop hts
    obtain ⟨hfirst, hothers⟩ := List.forall_mem_cons.mp h
    rw [Tree.forestNodes, List.mem_append, hfirst ht, ih hothers hrest]
    constructor
    · rintro (⟨hi, hm⟩ | ⟨⟨j, hij, hj⟩, hm⟩)
      · exact ⟨⟨i, le_refl i, hi⟩, hm⟩
      · exact ⟨⟨j, by omega, hj⟩, hm⟩
    · rintro ⟨⟨j, hij, hj⟩, hm⟩
      rcases Nat.eq_or_lt_of_le hij with rfl | hlt
      · exact .inl ⟨hj, hm⟩
      · exact .inr ⟨⟨j, hlt, hj⟩, hm⟩

/-- **The nodes of a tree are the places in it.** -/
theorem mem_allNodes (h : d.tree? path = some t) (m : Node) :
    m ∈ t.allNodes path ↔ path <:+ m.path ∧ d.Has m := by
  induction t using Tree.induction generalizing path m with
  | step t ih =>
    have hbelow : (d.below path).drop 0 = t.children := below_of_tree? h
    have hforest := mem_forestNodes_of_forall ih hbelow m
    have hcount := attributeCount_of_tree? h
    rw [Tree.allNodes_eq, List.mem_append, hforest]
    constructor
    · rintro (hm | ⟨⟨j, -, hj⟩, hm⟩)
      · obtain ⟨slot, hslot, rfl⟩ := List.mem_map.mp hm
        have hle : slot ≤ d.attributeCount path := by
          rw [hcount]
          exact Nat.le_of_lt_succ (List.mem_range.mp hslot)
        exact ⟨List.suffix_refl path, hasPath_of_tree? h, hle⟩
      · exact ⟨suffix_cons_cons hj, hm⟩
    · rintro ⟨hpath, hm⟩
      by_cases heq : path = m.path
      · have hslot : m.slot ≤ t.attributes.length := by
          rw [← hcount, heq]
          exact hm.2
        refine .inl (List.mem_map.mpr ⟨m.slot, List.mem_range.mpr (Nat.lt_succ_of_le hslot), ?_⟩)
        rw [heq]
      · obtain ⟨j, hj⟩ := exists_branch hpath heq
        exact .inr ⟨⟨j, Nat.zero_le j, hj⟩, hm⟩

theorem mem_forestNodes {ts : List Tree} {i : Nat} (h : (d.below path).drop i = ts) (m : Node) :
    m ∈ Tree.forestNodes path i ts ↔ (∃ j, i ≤ j ∧ (j :: path) <:+ m.path) ∧ d.Has m :=
  mem_forestNodes_of_forall (fun _ _ => mem_allNodes) h m

/-- **The nodes of a document are the places where it has something.** -/
theorem mem_nodes : n ∈ d.nodes ↔ d.Has n := by
  have hforest : n ∈ Tree.forestNodes [] 0 d.content ↔ (∃ j, 0 ≤ j ∧ [j] <:+ n.path) ∧ d.Has n :=
    mem_forestNodes rfl n
  show n ∈ Node.root :: Tree.forestNodes [] 0 d.content ↔ _
  rw [List.mem_cons]
  constructor
  · rintro (rfl | h)
    · exact ⟨trivial, le_refl 0⟩
    · exact (hforest.mp h).2
  · intro hn
    by_cases hpath : [] = n.path
    · left
      obtain ⟨npath, slot⟩ := n
      obtain rfl : [] = npath := hpath
      obtain rfl : slot = 0 := Nat.le_zero.mp hn.2
      rfl
    · obtain ⟨j, hj⟩ := exists_branch List.nil_suffix hpath
      exact .inr (hforest.mpr ⟨⟨j, Nat.zero_le j, hj⟩, hn⟩)

/-! ## the nodes in order -/

theorem ascending_forestNodes_of_forall {ts : List Tree} {i : Nat}
    (h : ∀ t ∈ ts, ∀ {path : List Nat}, d.tree? path = some t → Node.Ascending (t.allNodes path))
    (hts : (d.below path).drop i = ts) : Node.Ascending (Tree.forestNodes path i ts) := by
  induction ts generalizing i with
  | nil => exact Node.ascending_nil
  | cons t ts ih =>
    obtain ⟨ht, hrest⟩ := tree?_of_drop hts
    obtain ⟨hfirst, hothers⟩ := List.forall_mem_cons.mp h
    rw [Tree.forestNodes]
    refine List.pairwise_append.mpr ⟨hfirst ht, ih hothers hrest, fun a ha b hb => ?_⟩
    -- the first tree lies in an earlier branch than all others
    obtain ⟨hi, -⟩ := (mem_allNodes ht a).mp ha
    obtain ⟨⟨j, hij, hj⟩, -⟩ := (mem_forestNodes hrest b).mp hb
    exact Node.Left.before ⟨path, i, j, hij, hi, hj⟩

theorem ascending_allNodes (h : d.tree? path = some t) : Node.Ascending (t.allNodes path) := by
  induction t using Tree.induction generalizing path with
  | step t ih =>
    have hbelow : (d.below path).drop 0 = t.children := below_of_tree? h
    rw [Tree.allNodes_eq]
    refine List.pairwise_append.mpr
      ⟨?_, ascending_forestNodes_of_forall ih hbelow, fun a ha b hb => ?_⟩
    · refine List.pairwise_map.mpr (List.pairwise_lt_range.imp fun {i j} hij => ?_)
      exact (Node.before_iff_of_path_eq (a := ⟨path, i⟩) (b := ⟨path, j⟩) rfl).mpr hij
    · obtain ⟨slot, -, rfl⟩ := List.mem_map.mp ha
      obtain ⟨⟨j, -, hj⟩, -⟩ := (mem_forestNodes hbelow b).mp hb
      exact (Node.holds_iff.mpr ⟨j, hj⟩).before

end Document

end Rulebook
