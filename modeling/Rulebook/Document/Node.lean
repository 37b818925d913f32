import Rulebook.Document.Tree

/-!
# Nodes

A node is the place of something in a document: the path from the root or a tree up to the root, and
a slot, zero for the tree itself and `i + 1` for its attribute `i`.
-/

namespace Rulebook

structure Node where
  path : List Nat
  slot : Nat
deriving DecidableEq, Repr, Inhabited

inductive NodeKind where
  | root
  | element
  | attribute
  | text
  | comment
  | instruction
deriving DecidableEq, Repr

namespace Node

/-- the root of every document -/
def root : Node := ⟨[], 0⟩

def isAttribute (n : Node) : Bool := n.slot != 0

/-- the tree that an attribute belongs to -/
def owner (n : Node) : Node := ⟨n.path, 0⟩

/-- the child at an index -/
def child (n : Node) (i : Nat) : Node := ⟨i :: n.path, 0⟩

/-- the owner of an attribute, or what a tree lies in -/
def parent? (n : Node) : Option Node :=
  if n.isAttribute then some n.owner
  else match n.path with
    | [] => none
    | _ :: above => some ⟨above, 0⟩

end Node

namespace Document

variable (d : Document)

/-! ## what a node is -/

/-- the attribute at a node, if it is one -/
def attribute? (n : Node) : Option Attribute :=
  match n.slot, d.tree? n.path with
  | i + 1, some t => t.attributes[i]?
  | _, _ => none

def kind (n : Node) : NodeKind :=
  if n.isAttribute then .attribute
  else if n.path.isEmpty then .root
  else match d.tree? n.path with
    | some (.element ..) => .element
    | some (.comment _) => .comment
    | some (.instruction ..) => .instruction
    | _ => .text

/-- the name of an element or attribute -/
def qualified? (n : Node) : Option Name :=
  if n.isAttribute then (d.attribute? n).map (·.name)
  else match d.tree? n.path with
    | some (.element name _ _) => some name
    | _ => none

/-- elements and attributes have a name, and processing instructions have their target -/
def name? (n : Node) : Option Name :=
  match n.slot, d.tree? n.path with
  | 0, some (.instruction target _) => some (.plain target)
  | _, _ => d.qualified? n

/-- the text in the root or an element, and the content of everything else -/
def stringValue (n : Node) : String :=
  if n.isAttribute then ((d.attribute? n).map (·.value)).getD ""
  else if n.path.isEmpty then Tree.forestText d.content
  else match d.tree? n.path with
    | some (.element _ _ children) => Tree.forestText children
    | some (.text content) => content
    | some (.comment content) => content
    | some (.instruction _ content) => content
    | none => ""

/-! ## what lies around it -/

def children (n : Node) : List Node :=
  if n.isAttribute then [] else (List.range (d.below n.path).length).map n.child

def attributes (n : Node) : List Node :=
  if n.isAttribute then []
  else match d.tree? n.path with
    | some t => (List.range t.attributes.length).map fun i => ⟨n.path, i + 1⟩
    | none => []

def hasElementChildren (n : Node) : Bool :=
  !n.isAttribute && (d.below n.path).any Tree.isElement

end Document

/-! ## all nodes -/

namespace Tree

mutual

/-- a tree at a path and everything in it, attributes aside, in document order -/
def subtree (path : List Nat) : Tree → List Node
  | element _ _ children => ⟨path, 0⟩ :: subforest path 0 children
  | _ => [⟨path, 0⟩]

/-- the trees below a path from the index `i` on, with everything in them -/
def subforest (path : List Nat) (i : Nat) : List Tree → List Node
  | [] => []
  | t :: ts => t.subtree (i :: path) ++ subforest path (i + 1) ts

end

mutual

/-- a tree at a path, its attributes and everything in it, in document order -/
def allNodes (path : List Nat) : Tree → List Node
  | element _ attributes children =>
    ⟨path, 0⟩ :: (List.range attributes.length).map (fun i => ⟨path, i + 1⟩)
      ++ forestNodes path 0 children
  | _ => [⟨path, 0⟩]

def forestNodes (path : List Nat) (i : Nat) : List Tree → List Node
  | [] => []
  | t :: ts => t.allNodes (i :: path) ++ forestNodes path (i + 1) ts

end

end Tree

/-- every node of a document in document order -/
def Document.nodes (d : Document) : List Node := Node.root :: Tree.forestNodes [] 0 d.content

/-- the outermost element -/
def Document.outermost? (d : Document) : Option Node :=
  (d.children Node.root).find? fun n => d.kind n == .element

end Rulebook
