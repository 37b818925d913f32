import Rulebook.Proofs.Document.Axes

/-!
# Visiting a document

From a node one goes to its attributes, its children and its parent.

* `Document.visit`     a node, its attributes, and what is visited from its children;
* `Document.trees`     the root and all trees, each before what lies in it;
* `Document.Numbers`   numbers of the trees that grow in this order;
* `Node.key`           the number of a node's tree, and its slot.

`visit_root`: **what is visited from the root are all nodes in document order.**
`visit_of_numbers`: **whatever numbers the trees have, this is the order of the keys; the key says
which node it is; and going to the parent undoes going to a child or to an attribute.**
-/

set_option autoImplicit false

namespace Rulebook

theorem Tree.sizeOf_children_le (t : Tree) : sizeOf t.children ≤ sizeOf t := by
  cases t with
  | element name attributes children =>
    rw [element.sizeOf_spec]
    exact Nat.le_add_left _ _
  | text _ =>
    rw [text.sizeOf_spec]
    exact Nat.le_add_right 1 _
  | comment _ =>
    rw [comment.sizeOf_spec]
    exact Nat.le_add_right 1 _
  | instruction _ _ =>
    rw [instruction.sizeOf_spec, Nat.add_assoc]
    exact Nat.le_add_right 1 _

/-! ## lists in document order -/

/-- what holds of the nodes of an ascending list in their order holds of two of them if one comes
before the other -/
theorem Node.Ascending.rel_of_before {ns : List Node} (hns : Ascending ns) {R : Node → Node → Prop}
    (hR : ns.Pairwise R) {a b : Node} (ha : a ∈ ns) (hb : b ∈ ns) (hab : a.before b = true) :
    R a b := by
  induction ns with
  | nil => exact absurd ha List.not_mem_nil
  | cons n ns ih =>
    obtain ⟨hn, hns⟩ := ascending_cons.mp hns
    obtain ⟨hRn, hR⟩ := List.pairwise_cons.mp hR
    rcases List.mem_cons.mp ha with rfl | ha' <;> rcases List.mem_cons.mp hb with rfl | hb'
    · exact absurd hab (not_before_self _)
    · exact hRn b hb'
    · exact absurd (hn a ha') (not_before_of_before hab)
    · exact ih hns hR ha' hb'

/-! ## keys of nodes -/

namespace Node

/-- the number of the tree that the node is or belongs to, and its slot -/
def key (number : List Nat → Nat) (n : Node) : Nat × Nat := (number n.path, n.slot)

/-- by the numbers, and within a tree by the slots -/
def compareKeys (number : List Nat → Nat) (a b : Node) : Ordering :=
  (Ord.compare (a.key number).1 (b.key number).1).then (Ord.compare (a.key number).2 (b.key number).2)

theorem compareKeys_eq_iff {number : List Nat → Nat} {a b : Node} :
    compareKeys number a b = .eq ↔ a.key number = b.key number := by
  unfold compareKeys
  rw [Ordering.then_eq_eq, Nat.compare_eq_eq, Nat.compare_eq_eq, Prod.ext_iff]

end Node

namespace Document

variable {d : Document} {n m : Node} {path : List Nat} {i : Nat}

/-! ## children, attributes and parents -/

theorem children_eq (h : n.isAttribute = false) :
    d.children n = (List.range (d.below n.path).length).map n.child := by
  unfold children
  rw [if_neg (Bool.eq_false_iff.mp h)]

theorem attributes_eq (h : n.isAttribute = false) :
    d.attributes n = (List.range (d.attributeCount n.path)).map fun i => ⟨n.path, i + 1⟩ := by
  unfold attributes attributeCount
  rw [if_neg (Bool.eq_false_iff.mp h)]
  cases d.tree? n.path <;> rfl

/-- attributes have neither children nor attributes -/
theorem children_of_attribute (h : n.isAttribute = true) :
    d.children n = [] ∧ d.attributes n = [] := by
  unfold children attributes
  rw [if_pos h, if_pos h]
  exact ⟨rfl, rfl⟩

theorem hasPath_of_attributeCount_pos (h : 0 < d.attributeCount path) : d.HasPath path := by
  unfold attributeCount at h
  cases ht : d.tree? path with
  | none =>
    rw [ht] at h
    exact absurd h (Nat.lt_irrefl 0)
  | some t => exact hasPath_of_tree? ht

/-- the parent of a tree is a tree, and the one above its path -/
theorem parent?_of_tree (h : m.isAttribute = false) :
    m.parent? = some n ↔ n.isAttribute = false ∧ ∃ i, m.path = i :: n.path := by
  obtain ⟨path, slot⟩ := m
  unfold Node.parent?
  rw [if_neg (Bool.eq_false_iff.mp h)]
  cases path with
  | nil => exact iff_of_false nofun fun hn => nomatch hn.2
  | cons i above =>
    constructor
    · rintro ⟨⟩
      exact ⟨rfl, i, rfl⟩
    · rintro ⟨hn, j, hpath⟩
      obtain ⟨rfl, habove⟩ := List.cons.inj hpath
      exact congrArg some (Node.eq_of_trees rfl hn habove)

/-- the parent of an attribute is the tree at its path -/
theorem parent?_of_attribute (h : m.isAttribute = true) :
    m.parent? = some n ↔ n.isAttribute = false ∧ m.path = n.path := by
  unfold Node.parent?
  rw [if_pos h]
  constructor
  · rintro ⟨⟩
    exact ⟨rfl, rfl⟩
  · rintro ⟨hn, hpath⟩
    exact congrArg some (Node.eq_of_trees rfl hn hpath)

/-- the children of a node are the trees of the document that have it for a parent -/
theorem mem_children_iff :
    m ∈ d.children n ↔ d.Has m ∧ m.parent? = some n ∧ m.isAttribute = false := by
  cases hn : n.isAttribute with
  | true =>
    rw [(children_of_attribute hn).1]
    refine iff_of_false List.not_mem_nil fun ⟨_, hparent, htree⟩ => ?_
    rw [((parent?_of_tree htree).mp hparent).1] at hn
    cases hn
  | false =>
    rw [children_eq hn, List.mem_map]
    constructor
    · rintro ⟨i, hi, rfl⟩
      exact ⟨(has_iff_of_tree rfl).mpr (List.mem_range.mp hi),
        (parent?_of_tree rfl).mpr ⟨hn, i, rfl⟩, rfl⟩
    · rintro ⟨hm, hparent, htree⟩
      obtain ⟨-, i, hpath⟩ := (parent?_of_tree htree).mp hparent
      have hi : d.HasPath (i :: n.path) := hpath ▸ (has_iff_of_tree htree).mp hm
      exact ⟨i, List.mem_range.mpr hi, Node.eq_of_trees rfl htree hpath.symm⟩

/-- what lies in a node are its children and theirs, however far down -/
theorem mem_descendants_iff_children :
    m ∈ d.descendants n ↔ ∃ k ∈ d.descendantsOrSelf n, m ∈ d.children k := by
  rw [mem_descendants_iff_ancestors, Node.mem_ancestors_iff_parent]
  constructor
  · rintro ⟨hm, htree, p, hparent, hn⟩
    refine ⟨p, ?_, mem_children_iff.mpr ⟨hm, hparent, htree⟩⟩
    have hp : p ∈ m.ancestors := Node.mem_ancestors_iff_parent.mpr ⟨p, hparent, .inl rfl⟩
    rcases hn with rfl | hn
    · exact List.mem_cons_self
    · exact List.mem_cons_of_mem n (mem_descendants_iff_ancestors.mpr
        ⟨has_of_mem_ancestors hm hp, (Node.mem_ancestors.mp hp).1, hn⟩)
  · rintro ⟨k, hk, hchild⟩
    obtain ⟨hm, hparent, htree⟩ := mem_children_iff.mp hchild
    refine ⟨hm, htree, k, hparent, ?_⟩
    rcases List.mem_cons.mp hk with rfl | hk
    · exact .inl rfl
    · exact .inr (mem_descendants_iff_ancestors.mp hk).2.2

/-- the attributes of a node are those of the document that have it for a parent -/
theorem mem_attributes_iff :
    m ∈ d.attributes n ↔ d.Has m ∧ m.parent? = some n ∧ m.isAttribute = true := by
  cases hn : n.isAttribute with
  | true =>
    rw [(children_of_attribute hn).2]
    refine iff_of_false List.not_mem_nil fun ⟨_, hparent, hattribute⟩ => ?_
    rw [((parent?_of_attribute hattribute).mp hparent).1] at hn
    cases hn
  | false =>
    rw [attributes_eq hn, List.mem_map]
    constructor
    · rintro ⟨i, hi, rfl⟩
      have hi : i < d.attributeCount n.path := List.mem_range.mp hi
      exact ⟨⟨hasPath_of_attributeCount_pos (Nat.zero_lt_of_lt hi), hi⟩,
        (parent?_of_attribute rfl).mpr ⟨hn, rfl⟩, rfl⟩
    · rintro ⟨⟨-, hslot⟩, hparent, hattribute⟩
      obtain ⟨-, hpath⟩ := (parent?_of_attribute hattribute).mp hparent
      obtain ⟨path, slot⟩ := m
      obtain rfl : path = n.path := hpath
      cases slot with
      | zero => cases hattribute
      | succ i => exact ⟨i, List.mem_range.mpr hslot, rfl⟩

/-- only the root has no parent -/
theorem parent?_eq_none_iff : n.parent? = none ↔ n = .root := by
  constructor
  · intro h
    obtain ⟨path, slot⟩ := n
    cases slot with
    | succ i => cases h
    | zero =>
      cases path with
      | cons i above => cases h
      | nil => rfl
  · rintro rfl
    rfl

/-! ## visiting -/

/-- a child has less below it -/
theorem sizeOf_below_lt (h : m ∈ d.children n) :
    sizeOf (d.below m.path) < sizeOf (d.below n.path) := by
  obtain ⟨hm, hparent, htree⟩ := mem_children_iff.mp h
  obtain ⟨-, i, hpath⟩ := (parent?_of_tree htree).mp hparent
  have hi : i < (d.below n.path).length := by
    rw [has_iff_of_tree htree, hpath] at hm
    exact hm
  have hbelow : d.below m.path = (d.below n.path)[i].children := by
    rw [hpath]
    exact below_of_tree? (List.getElem?_eq_getElem hi)
  rw [hbelow]
  exact Nat.lt_of_le_of_lt (Tree.sizeOf_children_le _) (List.sizeOf_lt_of_mem (List.getElem_mem hi))

/-- a node, its attributes, and what is visited from its children -/
def visit (d : Document) (n : Node) : List Node :=
  n :: (d.attributes n ++ (d.children n).attach.flatMap fun m => d.visit m.1)
termination_by sizeOf (d.below n.path)
decreasing_by exact sizeOf_below_lt m.2

theorem visit_eq (d : Document) (n : Node) :
    d.visit n = n :: (d.attributes n ++ (d.children n).flatMap d.visit) := by
  rw [visit, ← List.flatMap_map Subtype.val, List.attach_map_subtype_val]

/-- the trees below a path are visited one after the other -/
theorem flatMap_visit_of_forall {ts : List Tree} {i : Nat}
    (h : ∀ t ∈ ts, ∀ {path : List Nat}, d.tree? path = some t →
      d.visit ⟨path, 0⟩ = t.allNodes path)
    (hts : (d.below path).drop i = ts) :
    ((List.range' i ts.length).map fun j => (⟨j :: path, 0⟩ : Node)).flatMap d.visit =
      Tree.forestNodes path i ts := by
  induction ts generalizing i with
  | nil => rfl
  | cons t ts ih =>
    obtain ⟨ht, hrest⟩ := tree?_of_drop hts
    obtain ⟨hfirst, hothers⟩ := List.forall_mem_cons.mp h
    rw [List.length_cons, List.range'_succ, List.map_cons, List.flatMap_cons, hfirst ht,
      ih hothers hrest, Tree.forestNodes]

/-- a tree is visited in the order of its nodes -/
theorem visit_of_tree? {t : Tree} (h : d.tree? path = some t) :
    d.visit ⟨path, 0⟩ = t.allNodes path := by
  induction t using Tree.induction generalizing path with
  | step t ih =>
    have hbelow : (d.below path).drop 0 = t.children := below_of_tree? h
    have hchildren := flatMap_visit_of_forall ih hbelow
    rw [← List.range_eq_range'] at hchildren
    rw [visit_eq, Tree.allNodes_eq, List.range_succ_eq_map, List.map_cons, List.map_map,
      attributes_eq rfl, attributeCount_of_tree? h, children_eq rfl, below_of_tree? h]
    exact congrArg _ (congrArg _ hchildren)

/-- **What is visited from the root are all nodes in document order.** -/
theorem visit_root (d : Document) : d.visit .root = d.nodes := by
  have hforest : _ = Tree.forestNodes [] 0 d.content :=
    flatMap_visit_of_forall (fun _ _ => visit_of_tree?) rfl
  rw [visit_eq, children_eq rfl, List.range_eq_range']
  exact congrArg _ hforest

theorem ascending_nodes (d : Document) : Node.Ascending d.nodes := by
  refine Node.ascending_cons.mpr ⟨fun m hm => ?_, ascending_forestNodes_of_forall
    (fun _ _ => ascending_allNodes) rfl⟩
  obtain ⟨⟨j, -, hj⟩, -⟩ := (mem_forestNodes rfl m).mp hm
  exact (Node.holds_iff.mpr ⟨j, hj⟩).before

/-! ## numbers of trees -/

/-- the root and all trees, each before what lies in it -/
def trees (d : Document) : List Node := .root :: Tree.subforest [] 0 d.content

/-- the numbers of the trees grow in document order -/
def Numbers (d : Document) (number : List Nat → Nat) : Prop :=
  d.trees.Pairwise fun a b => number a.path < number b.path

theorem trees_eq_filter (d : Document) : d.trees = d.nodes.filter (!·.isAttribute) := by
  unfold trees
  rw [Tree.subforest_eq_filter]
  rfl

theorem mem_trees : n ∈ d.trees ↔ n.isAttribute = false ∧ d.HasPath n.path := by
  rw [trees_eq_filter, List.mem_filter, mem_nodes, Bool.not_eq_true', and_comm]
  exact and_congr_right has_iff_of_tree

theorem ascending_trees (d : Document) : Node.Ascending d.trees := by
  rw [trees_eq_filter]
  exact (ascending_nodes d).filter _

/-- the trees can be numbered by their places -/
theorem numbers_idxOf (d : Document) : d.Numbers fun path => d.trees.idxOf ⟨path, 0⟩ := by
  have hnodup : d.trees.Nodup := (ascending_trees d).nodup
  have hplace {k : Nat} (hk : k < d.trees.length) : d.trees.idxOf ⟨d.trees[k].path, 0⟩ = k := by
    have htree : d.trees[k].isAttribute = false := (mem_trees.mp (List.getElem_mem hk)).1
    have hself : (⟨d.trees[k].path, 0⟩ : Node) = d.trees[k] := Node.eq_of_trees rfl htree rfl
    rw [hself]
    exact hnodup.idxOf_getElem k hk
  refine List.pairwise_iff_getElem.mpr fun i j hi hj hij => ?_
  show d.trees.idxOf _ < d.trees.idxOf _
  rw [hplace hi, hplace hj]
  exact hij

/-- numbers compare as the paths do -/
theorem Numbers.compare_eq {number : List Nat → Nat} (h : d.Numbers number) {p q : List Nat}
    (hp : d.HasPath p) (hq : d.HasPath q) :
    Ord.compare (number p) (number q) = Node.comparePaths p q := by
  have hlt {p q : List Nat} (hp : d.HasPath p) (hq : d.HasPath q)
      (hpq : Node.compare ⟨p, 0⟩ ⟨q, 0⟩ = .lt) : number p < number q :=
    (ascending_trees d).rel_of_before h (mem_trees.mpr ⟨rfl, hp⟩) (mem_trees.mpr ⟨rfl, hq⟩)
      (Node.before_iff.mpr hpq)
  have hpaths : Node.comparePaths p q = Node.compare ⟨p, 0⟩ ⟨q, 0⟩ := Ordering.then_eq.symm
  rw [hpaths]
  cases hcompare : Node.compare ⟨p, 0⟩ ⟨q, 0⟩ with
  | lt => exact Nat.compare_eq_lt.mpr (hlt hp hq hcompare)
  | eq =>
    obtain ⟨⟩ := Std.LawfulEqCmp.eq_of_compare hcompare
    exact Nat.compare_eq_eq.mpr rfl
  | gt => exact Nat.compare_eq_gt.mpr (hlt hq hp (Std.OrientedCmp.gt_iff_lt.mp hcompare))

/-- keys compare as the nodes do -/
theorem Numbers.compareKeys_eq {number : List Nat → Nat} (h : d.Numbers number) (hn : d.Has n)
    (hm : d.Has m) : n.compareKeys number m = n.compare m := by
  unfold Node.compareKeys Node.compare Node.key
  rw [h.compare_eq hn.1 hm.1]

/-- a key says which node it is -/
theorem Numbers.key_eq_iff {number : List Nat → Nat} (h : d.Numbers number) (hn : d.Has n)
    (hm : d.Has m) : n.key number = m.key number ↔ n = m := by
  rw [← Node.compareKeys_eq_iff, h.compareKeys_eq hn hm]
  exact Std.LawfulEqCmp.compare_eq_iff_eq

/-- attributes are addressed by their owner and their index -/
theorem getElem?_attributes (h : (d.attributes n)[i]? = some m) :
    m.owner = n ∧ m.slot = i + 1 := by
  cases hn : n.isAttribute with
  | true =>
    rw [(children_of_attribute hn).2] at h
    cases h
  | false =>
    rw [attributes_eq hn, List.getElem?_map, Option.map_eq_some_iff] at h
    obtain ⟨j, hj, rfl⟩ := h
    obtain ⟨hi, rfl⟩ := List.getElem?_eq_some_iff.mp hj
    rw [List.getElem_range]
    exact ⟨Node.eq_of_trees rfl hn rfl, rfl⟩

/-- **Visiting a document in the order of the keys.**  If the numbers of the trees grow in document
order, then what is visited from the root are the nodes of the document, each once, and their keys
grow; the keys are ordered as the nodes are, and two nodes of one key are the same; attributes are
addressed by their owner and their index.  The children and the attributes of a node are what has it
for a parent, attributes have neither, and the root alone has no parent. -/
theorem visit_of_numbers (d : Document) (number : List Nat → Nat) (h : d.Numbers number) :
    (d.visit .root).Pairwise (fun a b => a.compareKeys number b = .lt) ∧
    (d.visit .root).Nodup ∧
    (∀ n, n ∈ d.visit .root ↔ d.Has n) ∧
    (∀ n m, d.Has n → d.Has m → n.compareKeys number m = n.compare m ∧
      (n.compareKeys number m = .eq ↔ n.key number = m.key number) ∧
      (n.key number = m.key number ↔ n = m)) ∧
    (∀ n i m, (d.attributes n)[i]? = some m → m.owner = n ∧ m.slot = i + 1) ∧
    (∀ n m, m ∈ d.attributes n ↔ d.Has m ∧ m.parent? = some n ∧ m.isAttribute = true) ∧
    (∀ n m, m ∈ d.children n ↔ d.Has m ∧ m.parent? = some n ∧ m.isAttribute = false) ∧
    (∀ n, n.isAttribute = true → d.children n = [] ∧ d.attributes n = []) ∧
    ∀ n : Node, n.parent? = none ↔ n = .root := by
  rw [visit_root]
  have hascending := ascending_nodes d
  refine ⟨?_, hascending.nodup, fun _ => mem_nodes, fun n m hn hm => ?_,
    fun _ _ _ => getElem?_attributes, fun _ _ => mem_attributes_iff, fun _ _ => mem_children_iff,
    fun _ => children_of_attribute, fun _ => parent?_eq_none_iff⟩
  · refine hascending.imp_of_mem fun ha hb hab => ?_
    rw [h.compareKeys_eq (mem_nodes.mp ha) (mem_nodes.mp hb)]
    exact Node.before_iff.mp hab
  · exact ⟨h.compareKeys_eq hn hm, Node.compareKeys_eq_iff, h.key_eq_iff hn hm⟩

/-- the invoice, its trees numbered by their places -/
theorem visit_of_numbers_invoice :
    invoice.Numbers (fun path => invoice.trees.idxOf ⟨path, 0⟩) ∧
    (invoice.visit .root).Pairwise fun a b =>
      a.compareKeys (fun path => invoice.trees.idxOf ⟨path, 0⟩) b = .lt :=
  have h := numbers_idxOf invoice
  ⟨h, (visit_of_numbers invoice _ h).1⟩

end Document

end Rulebook
