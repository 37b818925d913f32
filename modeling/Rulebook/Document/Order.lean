import Rulebook.Document.Node

/-!
# Document order

In document order a tree comes before its attributes, they come before its children, and these come
in their order with all that is in them.  `Node.inOrder` puts nodes in document order by merging the
ascending runs that they consist of; most lists of nodes are few such runs.
-/

namespace Rulebook.Node

/-! ## the order -/

/-- paths of one length, from the root down -/
def compareLevel : List Nat → List Nat → Ordering
  | i :: p, j :: q => (compareLevel p q).then (Ord.compare i j)
  | _, _ => .eq

/-- paths as deep as the shorter one goes, and that one first if the other goes on from it -/
def comparePaths (p q : List Nat) : Ordering :=
  (compareLevel (p.drop (p.length - q.length)) (q.drop (q.length - p.length))).then
    (Ord.compare p.length q.length)

/-- attributes come behind their owner, in the order of their slots -/
def compare (a b : Node) : Ordering :=
  (comparePaths a.path b.path).then (Ord.compare a.slot b.slot)

/-- comes first in document order -/
def before (a b : Node) : Bool := (a.compare b).isLT

/-! ## merging -/

/-- a node among those of an ascending list, `rest` being what goes on from it with the nodes that
come after it -/
def among (n : Node) (rest : List Node → List Node) : List Node → List Node
  | [] => n :: rest []
  | m :: ms =>
    match n.compare m with
    | .lt => n :: rest (m :: ms)
    | .eq => n :: rest ms
    | .gt => m :: among n rest ms

/-- the nodes of two ascending lists in one, each node once -/
def merge : List Node → List Node → List Node
  | [], ms => ms
  | n :: ns, ms => among n (merge ns) ms

/-! ## rows -/

/-- Lists of nodes merged as they come.  The place `i` holds what was merged of `2 ^ i` ascending
lists: one more list is carried on as in counting, so that only equally many are merged at a time. -/
abbrev Row := List (Option (List Node))

/-- one more ascending list -/
def Row.carry (ns : List Node) : Row → Row
  | [] => [some ns]
  | none :: row => some ns :: row
  | some ms :: row => none :: carry (merge ms ns) row

/-- more nodes in any order -/
def Row.add (row : Row) (ns : List Node) : Row :=
  (ns.splitBy before).foldl (fun row run => row.carry run) row

/-- all nodes of a row in document order -/
def Row.nodes (row : Row) : List Node :=
  row.foldl (fun all part => merge (part.getD []) all) []

/-- in document order, each node once -/
def inOrder (ns : List Node) : List Node := (Row.add [] ns).nodes

end Rulebook.Node
