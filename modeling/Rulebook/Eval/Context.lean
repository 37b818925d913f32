import Rulebook.Document.Axis
import Rulebook.Scope.Frame

/-!
# Contexts

What an expression depends on besides itself: the document, the item it is about with its place
among others, the scope of names, and how deep definitions have led already.
-/

namespace Rulebook

structure Context where
  document : Document
  item : Item
  /-- the item that the outermost expression is about -/
  current : Item
  /-- where absolute paths begin -/
  root : Node
  position : Nat
  size : Nat
  scope : Scope
  /-- the namespaces of prefixes in names -/
  namespaces : Table String
  /-- how many definitions lead here -/
  depth : Nat
  maxDepth : Nat
  /-- the time, held fixed for a whole evaluation: two calls that ask for it get the same, where a
  clock read at each call could have gone on in between -/
  now : Time.Instant

/-- the depth allowed where nothing else is said -/
def defaultMaxDepth : Nat := 128

namespace Context

/-- the context of one item alone -/
def new (d : Document) (item : Item) (root : Node) (scope : Scope) (namespaces : Table String)
    (now : Time.Instant) : Context :=
  { document := d, item, current := item, root, position := 1, size := 1, scope, namespaces,
    depth := 0, maxDepth := defaultMaxDepth, now }

/-- the same about another item -/
def focus (c : Context) (item : Item) (position size : Nat) : Context :=
  { c with item, position, size }

def withScope (c : Context) (s : Scope) : Context := { c with scope := s }

/-- one definition deeper -/
def descend (c : Context) : Except EvalError Context :=
  if c.depth < c.maxDepth then .ok { c with depth := c.depth + 1 }
  else .error (.depthExceeded c.maxDepth)

/-- how many definitions may still follow -/
def remaining (c : Context) : Nat := c.maxDepth - c.depth

def node : Context → Except EvalError Node
  | { item := .node n, .. } => .ok n
  | _ => .error .noContextNode

theorem node_eq (c : Context) :
    c.node = match c.item with
      | .node n => .ok n
      | .atomic _ => .error .noContextNode := by
  obtain ⟨_, i⟩ := c
  cases i <;> rfl

end Context

end Rulebook
