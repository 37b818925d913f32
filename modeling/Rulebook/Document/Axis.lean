import Rulebook.Document.Order

/-!
# Axes

Twelve ways to go from a node to others.  Each gives its nodes in axis order: forward axes in
document order, reverse axes the nearest first.
-/

namespace Rulebook

inductive Axis where
  | child
  | descendant
  | descendantOrSelf
  | attribute
  | parent
  | ancestor
  | ancestorOrSelf
  | self
  | followingSibling
  | precedingSibling
  | following
  | preceding
deriving DecidableEq, Repr

namespace Axis

/-- reverse axes count their nodes from the nearest on -/
def isReverse : Axis → Bool
  | parent | ancestor | ancestorOrSelf | precedingSibling | preceding => true
  | _ => false

/-- the kind of node that a name test on the axis is about -/
def principal : Axis → NodeKind
  | .attribute => .attribute
  | _ => .element

/-- the name of an axis in an expression -/
def keyword : Axis → String
  | child => "child"
  | descendant => "descendant"
  | descendantOrSelf => "descendant-or-self"
  | .attribute => "attribute"
  | parent => "parent"
  | ancestor => "ancestor"
  | ancestorOrSelf => "ancestor-or-self"
  | self => "self"
  | followingSibling => "following-sibling"
  | precedingSibling => "preceding-sibling"
  | following => "following"
  | preceding => "preceding"

/-- all axes; a name comes before those it begins -/
def all : List Axis :=
  [child, descendantOrSelf, descendant, .attribute, parent, ancestorOrSelf, ancestor, self,
    followingSibling, precedingSibling, following, preceding]

end Axis

/-- the trees that the tree at a path lies in, from the innermost to the root -/
def Node.around : List Nat → List Node
  | [] => []
  | _ :: path => ⟨path, 0⟩ :: around path

/-- from the parent of a node to the root -/
def Node.ancestors (n : Node) : List Node :=
  if n.isAttribute then n.owner :: around n.path else around n.path

def Node.ancestorsOrSelf (n : Node) : List Node := n :: n.ancestors

namespace Document

variable (d : Document)

/-- everything in a node, attributes aside -/
def descendants (n : Node) : List Node :=
  if n.isAttribute then [] else Tree.subforest n.path 0 (d.below n.path)

def descendantsOrSelf (n : Node) : List Node := n :: d.descendants n

/-- the children of the parent; attributes have no siblings -/
def siblings (n : Node) : List Node :=
  if n.isAttribute then [] else
  match n.parent? with
  | some p => d.children p
  | none => []

def followingSiblings (n : Node) : List Node := (d.siblings n).filter n.before

def precedingSiblings (n : Node) : List Node := ((d.siblings n).filter (·.before n)).reverse

/-- what comes after a node and is not in it; after an attribute comes the content of its owner -/
def following (n : Node) : List Node :=
  (if n.isAttribute then d.descendants n.owner else []) ++
    n.ancestorsOrSelf.flatMap fun m => (d.followingSiblings m).flatMap d.descendantsOrSelf

/-- what comes before a node and does not contain it, the nearest first -/
def preceding (n : Node) : List Node :=
  (n.ancestorsOrSelf.reverse.flatMap fun m =>
    (d.precedingSiblings m).reverse.flatMap d.descendantsOrSelf).reverse

/-- the nodes along an axis, in axis order -/
def along (n : Node) : Axis → List Node
  | .child => d.children n
  | .descendant => d.descendants n
  | .descendantOrSelf => d.descendantsOrSelf n
  | .attribute => d.attributes n
  | .parent => n.parent?.toList
  | .ancestor => n.ancestors
  | .ancestorOrSelf => n.ancestorsOrSelf
  | .self => [n]
  | .followingSibling => d.followingSiblings n
  | .precedingSibling => d.precedingSiblings n
  | .following => d.following n
  | .preceding => d.preceding n

end Document

end Rulebook
