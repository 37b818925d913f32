import Rulebook.Document.Node
import Rulebook.Value.Atomic
import Rulebook.Value.Error

/-!
# Values

A value is a list of items, each a literal or a node.  `Value.single?` reads a value as one literal
and refuses what has more than one or is no leaf of the document; `Value.text` and `Value.number`
read the first item of any value.
-/

namespace Rulebook

inductive Item where
  | atomic (a : Atomic)
  | node (n : Node)
deriving Repr

abbrev Value := List Item

namespace Item

def isNode : Item → Bool
  | node _ => true
  | atomic _ => false

def node? : Item → Option Node
  | node n => some n
  | atomic _ => none

variable (d : Document)

/-- the literal itself, or the text of the node -/
def atomize : Item → Atomic
  | atomic a => a
  | node n => .text (d.stringValue n)

def text (i : Item) : String := (i.atomize d).asText

def number (i : Item) : Float := (i.atomize d).asNumber

/-- the literal that an item is: of nodes only those without element in them have one -/
def single : Item → Except EvalError Atomic
  | atomic a => .ok a
  | node n =>
    match d.kind n with
    | .root => .error .documentNode
    | .element =>
      if d.hasElementChildren n then .error (.notLeaf (((d.name? n).map Name.lexical).getD ""))
      else .ok (.text (d.stringValue n))
    | _ => .ok (.text (d.stringValue n))

/-- an item that must be a node -/
def asNode : Item → Except EvalError Node
  | node n => .ok n
  | atomic a => .error (.notNode a.typeName)

end Item

namespace Value

def ofNodes (ns : List Node) : Value := ns.map .node

def ofText (s : String) : Value := [.atomic (.text s)]

def ofNumber (x : Float) : Value := [.atomic (.number x)]

def ofBool (b : Bool) : Value := [.atomic (.boolean b)]

def ofInstant (t : Time.Instant) : Value := [.atomic (.instant t)]

/-- a single item decides by itself; several hold if there is a node among them -/
def truth : Value → Bool
  | [] => false
  | [.node _] => true
  | [.atomic a] => a.truth
  | items => items.any Item.isNode

/-- all nodes of a value that has nothing else -/
def nodes (v : Value) : Except EvalError (List Node) := v.mapM Item.asNode

theorem nodes_node_cons (n : Node) (v : Value) :
    nodes (.node n :: v) = (nodes v).map (n :: ·) := by
  unfold nodes
  rw [List.mapM_cons]
  show (List.mapM Item.asNode v >>= fun ns => .ok (n :: ns)) = _
  cases List.mapM Item.asNode v <;> rfl

theorem nodes_atomic_cons (a : Atomic) (v : Value) :
    nodes (.atomic a :: v) = .error (.notNode a.typeName) := by
  unfold nodes
  rw [List.mapM_cons]
  rfl

/-- a value either consists of nodes or has a literal in it -/
theorem nodes_cases (v : Value) :
    (∃ ns, v = ofNodes ns ∧ v.nodes = .ok ns) ∨
      ∃ a e, Item.atomic a ∈ v ∧ v.nodes = .error e := by
  induction v with
  | nil => exact .inl ⟨[], rfl, rfl⟩
  | cons i v ih =>
    cases i with
    | atomic a => exact .inr ⟨a, _, List.mem_cons_self, nodes_atomic_cons a v⟩
    | node n =>
      rw [nodes_node_cons]
      rcases ih with ⟨ns, rfl, h⟩ | ⟨a, e, ha, h⟩
      · exact .inl ⟨n :: ns, rfl, by rw [h]; rfl⟩
      · exact .inr ⟨a, e, List.mem_cons_of_mem _ ha, by rw [h]; rfl⟩

variable (d : Document)

/-- the text of the first item -/
def text : Value → String
  | [] => ""
  | i :: _ => i.text d

/-- the number of the first item -/
def number : Value → Float
  | [] => Number.nan
  | i :: _ => i.number d

def atomize (v : Value) : List Atomic := v.map (Item.atomize d)

/-- the one literal of a value, or nothing of an empty one -/
def single? : Value → Except EvalError (Option Atomic)
  | [] => .ok none
  | [i] => (i.single d).map some
  | items => .error (.manyItems items.length)

/-- an operand of arithmetic; an empty one is no number -/
def operand (v : Value) : Except EvalError Float :=
  (v.single? d).map fun a => (a.map Atomic.asNumber).getD Number.nan

end Value

end Rulebook
