import Rulebook.Document.Axis
import Rulebook.Proofs.Document.Places

/-!
# The prefixes of a document

A name carries the prefix that it is shown with.  What a document is about its nodes does not depend
on the prefixes, but for `xml`, which says that an attribute declares a language.

* `Document.bare`              a document without the prefixes of its names, `xml` left in place;
* `Document.SameButPrefixes`   documents that differ in other prefixes alone.

`along_bare`: **from every node the axes lead to the same nodes without the prefixes.**
-/

set_option autoImplicit false

namespace Rulebook

/-! ## leaving out prefixes -/

/-- the name without its prefix, unless that is `xml` -/
def Name.bare (q : Name) : Name := { q with qualifier := q.qualifier.filter (· == "xml") }

def Attribute.bare (a : Attribute) : Attribute := { a with name := a.name.bare }

namespace Tree

mutual

def bare : Tree → Tree
  | element name attributes children =>
    element name.bare (attributes.map Attribute.bare) (bareForest children)
  | text content => text content
  | comment content => comment content
  | instruction target content => instruction target content

def bareForest : List Tree → List Tree
  | [] => []
  | t :: ts => t.bare :: bareForest ts

end

theorem bareForest_eq_map (ts : List Tree) : bareForest ts = ts.map bare := by
  induction ts with
  | nil => rfl
  | cons t ts ih => rw [bareForest, ih, List.map_cons]

end Tree

def Document.bare (d : Document) : Document := ⟨Tree.bareForest d.content⟩

/-- The documents have the same trees, but for the prefixes of names.  A name has the prefix `xml` in
one of them if and only if it has it in the other. -/
def Document.SameButPrefixes (d d' : Document) : Prop := d.bare = d'.bare

/-- the prefix `xml` stays -/
theorem Name.qualifier_bare_beq (q : Name) :
    (q.bare.qualifier == some "xml") = (q.qualifier == some "xml") := by
  obtain ⟨qualifier, uri, localPart⟩ := q
  cases qualifier with
  | none => rfl
  | some p => by_cases h : p = "xml" <;> simp [bare, Option.filter, h]

namespace Tree

theorem children_bare (t : Tree) : t.bare.children = t.children.map bare := by
  cases t with
  | element name attributes children => exact bareForest_eq_map children
  | text _ | comment _ | instruction _ _ => rfl

theorem attributes_bare (t : Tree) : t.bare.attributes = t.attributes.map Attribute.bare := by
  cases t <;> rfl

theorem isElement_bare (t : Tree) : t.bare.isElement = t.isElement := by
  cases t <;> rfl

theorem forestText_bare_of_forall {ts : List Tree}
    (h : ∀ t ∈ ts, t.bare.textContent = t.textContent) :
    forestText (bareForest ts) = forestText ts := by
  induction ts with
  | nil => rfl
  | cons t ts ih =>
    obtain ⟨ht, hts⟩ := List.forall_mem_cons.mp h
    rw [bareForest, forestText, forestText, ht, ih hts]

theorem textContent_bare (t : Tree) : t.bare.textContent = t.textContent := by
  induction t using Tree.induction with
  | step t ih =>
    cases t with
    | element name attributes children =>
      rw [bare, textContent, textContent]
      exact forestText_bare_of_forall ih
    | text _ | comment _ | instruction _ _ => rw [bare]

theorem forestText_bare (ts : List Tree) : forestText (bareForest ts) = forestText ts :=
  forestText_bare_of_forall fun t _ => t.textContent_bare

theorem subforest_bare_of_forall {ts : List Tree}
    (h : ∀ t ∈ ts, ∀ path, t.bare.subtree path = t.subtree path) (path : List Nat) (i : Nat) :
    subforest path i (ts.map bare) = subforest path i ts := by
  induction ts generalizing i with
  | nil => rfl
  | cons t ts ih =>
    obtain ⟨ht, hts⟩ := List.forall_mem_cons.mp h
    rw [List.map_cons, subforest, subforest, ht, ih hts]

/-- the places in a tree do not depend on names -/
theorem subtree_bare (t : Tree) (path : List Nat) : t.bare.subtree path = t.subtree path := by
  induction t using Tree.induction generalizing path with
  | step t ih => rw [subtree_eq, subtree_eq, children_bare, subforest_bare_of_forall ih]

theorem subforest_bare (ts : List Tree) (path : List Nat) (i : Nat) :
    subforest path i (ts.map bare) = subforest path i ts :=
  subforest_bare_of_forall (fun t _ => t.subtree_bare) path i

end Tree

namespace Document

variable (d : Document)

/-! ## what is at a place -/

theorem below_bare (path : List Nat) : d.bare.below path = (d.below path).map Tree.bare := by
  induction path with
  | nil => exact Tree.bareForest_eq_map d.content
  | cons i path ih =>
    unfold below
    rw [ih, List.getElem?_map]
    cases (d.below path)[i]? with
    | none => rfl
    | some t => exact t.children_bare

theorem tree?_bare (path : List Nat) : d.bare.tree? path = (d.tree? path).map Tree.bare := by
  cases path with
  | nil => rfl
  | cons i path =>
    show (d.bare.below path)[i]? = (d.below path)[i]?.map Tree.bare
    rw [below_bare, List.getElem?_map]

theorem kind_bare : d.bare.kind = d.kind := by
  funext n
  unfold kind
  rw [tree?_bare]
  cases d.tree? n.path with
  | none => rfl
  | some t => cases t <;> rfl

theorem attribute?_bare (n : Node) :
    d.bare.attribute? n = (d.attribute? n).map Attribute.bare := by
  unfold attribute?
  rw [tree?_bare]
  cases n.slot with
  | zero => rfl
  | succ i =>
    cases d.tree? n.path with
    | none => rfl
    | some t =>
      show t.bare.attributes[i]? = _
      rw [Tree.attributes_bare, List.getElem?_map]

theorem qualified?_bare (n : Node) : d.bare.qualified? n = (d.qualified? n).map Name.bare := by
  unfold qualified?
  rw [attribute?_bare, tree?_bare]
  cases n.isAttribute with
  | true => cases d.attribute? n <;> rfl
  | false =>
    cases d.tree? n.path with
    | none => rfl
    | some t => cases t <;> rfl

theorem name?_bare (n : Node) : d.bare.name? n = (d.name? n).map Name.bare := by
  unfold name?
  rw [qualified?_bare, tree?_bare]
  cases n.slot with
  | succ i => rfl
  | zero =>
    cases d.tree? n.path with
    | none => rfl
    | some t => cases t <;> rfl

theorem stringValue_bare : d.bare.stringValue = d.stringValue := by
  funext n
  have hcontent : Tree.forestText d.bare.content = Tree.forestText d.content :=
    Tree.forestText_bare d.content
  unfold stringValue
  rw [attribute?_bare, tree?_bare, hcontent, Option.map_map]
  cases d.tree? n.path with
  | none => rfl
  | some t =>
    cases t with
    | element name attributes children =>
      show (if _ then _ else if _ then _ else Tree.forestText (Tree.bareForest children)) = _
      rw [Tree.forestText_bare]
      rfl
    | text _ | comment _ | instruction _ _ => rfl

/-! ## where the axes lead -/

theorem children_bare : d.bare.children = d.children := by
  funext n
  unfold children
  rw [below_bare, List.length_map]

theorem attributes_bare : d.bare.attributes = d.attributes := by
  funext n
  unfold attributes
  rw [tree?_bare]
  cases d.tree? n.path with
  | none => rfl
  | some t =>
    dsimp only [Option.map_some]
    rw [Tree.attributes_bare, List.length_map]

theorem hasElementChildren_bare : d.bare.hasElementChildren = d.hasElementChildren := by
  funext n
  unfold hasElementChildren
  rw [below_bare, List.any_map]
  exact congrArg (fun p => !n.isAttribute && (d.below n.path).any p) (funext Tree.isElement_bare)

theorem descendants_bare : d.bare.descendants = d.descendants := by
  funext n
  unfold descendants
  rw [below_bare, Tree.subforest_bare]

/-- **From every node the axes lead to the same nodes without the prefixes.** -/
theorem along_bare (n : Node) (axis : Axis) : d.bare.along n axis = d.along n axis := by
  have hself : d.bare.descendantsOrSelf = d.descendantsOrSelf := by
    funext m
    unfold descendantsOrSelf
    rw [descendants_bare]
  have hsiblings : d.bare.siblings = d.siblings := by
    funext m
    unfold siblings
    rw [children_bare]
  have hafter : d.bare.followingSiblings = d.followingSiblings := by
    funext m
    unfold followingSiblings
    rw [hsiblings]
  have hbefore : d.bare.precedingSiblings = d.precedingSiblings := by
    funext m
    unfold precedingSiblings
    rw [hsiblings]
  match axis with
  | .child => exact congrFun d.children_bare n
  | .descendant => exact congrFun d.descendants_bare n
  | .descendantOrSelf => exact congrFun hself n
  | .attribute => exact congrFun d.attributes_bare n
  | .followingSibling => exact congrFun hafter n
  | .precedingSibling => exact congrFun hbefore n
  | .following =>
    unfold along following
    rw [descendants_bare, hafter, hself]
  | .preceding =>
    unfold along preceding
    rw [hbefore, hself]
  | .parent | .ancestor | .ancestorOrSelf | .self => rfl

end Document

end Rulebook
