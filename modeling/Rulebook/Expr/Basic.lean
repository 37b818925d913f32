import Rulebook.Document.Axis

/-!
# Expressions

The abstract syntax of the rule language: literals, paths over the document, calls, operators,
filters, sequences, conditions, quantifiers and ranges.
-/

namespace Rulebook

/-! ## operators -/

inductive Relation where
  | eq | ne | lt | le | gt | ge
deriving DecidableEq, Repr

inductive BinaryOp where
  | or
  | and
  /-- holds for some pair of items -/
  | general (r : Relation)
  /-- compares two single literals -/
  | value (r : Relation)
  | add
  | subtract
  | multiply
  | divide
  | modulo
  | union
deriving DecidableEq, Repr

inductive Quantifier where
  | some
  | every
deriving DecidableEq, Repr

/-! ## node tests -/

inductive KindTest where
  | node
  | text
  | comment
  | instruction
deriving DecidableEq, Repr

inductive NodeTest where
  /-- any name -/
  | any
  /-- a name; without prefix its namespace does not matter -/
  | named (qualifier : Option String) (localPart : String)
  /-- any name in the namespace of a prefix -/
  | within (qualifier : String)
  | kind (k : KindTest)
deriving DecidableEq, Repr

/-! ## expressions -/

mutual

inductive Expr where
  | literal (text : String)
  | number (value : Float)
  | path (origin : Origin) (steps : List Step)
  | var (name : String)
  | call (name : String) (args : List Expr)
  | binary (op : BinaryOp) (left right : Expr)
  | negate (operand : Expr)
  /-- items of the base that satisfy the predicates, as in `(//item)[1]` -/
  | filter (base : Expr) (predicates : List Expr)
  | sequence (items : List Expr)
  | conditional (test yes no : Expr)
  | quantified (quantifier : Quantifier) (clauses : List Clause) (satisfies : Expr)
  | range (first last : Expr)

/-- where a path begins -/
inductive Origin where
  /-- the context item -/
  | context
  /-- the root of the document -/
  | root
  /-- the nodes that an expression selects -/
  | value (e : Expr)

/-- one step of a path: from each node along an axis to the nodes that pass the tests -/
structure Step where
  axis : Axis
  test : NodeTest
  predicates : List Expr

/-- `$name in domain` -/
structure Clause where
  name : String
  domain : Expr

end

instance : Inhabited Expr := ⟨.sequence []⟩

/-- the step that `//` stands for -/
def Step.anywhere : Step := ⟨.descendantOrSelf, .kind .node, []⟩

def Expr.isPath : Expr → Bool
  | .path .. => true
  | _ => false

/-- a path that begins at the context item -/
def Expr.isRelativePath : Expr → Bool
  | .path .context _ => true
  | _ => false

def Expr.isBinary : Expr → Bool
  | .binary .. => true
  | _ => false

/-! ## parts -/

mutual

/-- an expression and all expressions in it, each before those in it, from left to right; those in
predicates only if `deep` -/
def Expr.parts (deep : Bool) : Expr → List Expr
  | .literal text => [.literal text]
  | .number value => [.number value]
  | .path origin steps => .path origin steps :: (origin.parts deep ++ Expr.stepParts deep steps)
  | .var name => [.var name]
  | .call name args => .call name args :: Expr.listParts deep args
  | .binary op left right => .binary op left right :: (left.parts deep ++ right.parts deep)
  | .negate operand => .negate operand :: operand.parts deep
  | .filter base predicates =>
    .filter base predicates :: (base.parts deep ++ if deep then Expr.listParts deep predicates else [])
  | .sequence items => .sequence items :: Expr.listParts deep items
  | .conditional test yes no =>
    .conditional test yes no :: (test.parts deep ++ yes.parts deep ++ no.parts deep)
  | .quantified q clauses satisfies =>
    .quantified q clauses satisfies :: (Expr.clauseParts deep clauses ++ satisfies.parts deep)
  | .range first last => .range first last :: (first.parts deep ++ last.parts deep)

def Origin.parts (deep : Bool) : Origin → List Expr
  | .context => []
  | .root => []
  | .value e => e.parts deep

def Expr.listParts (deep : Bool) : List Expr → List Expr
  | [] => []
  | e :: es => e.parts deep ++ Expr.listParts deep es

def Expr.stepParts (deep : Bool) : List Step → List Expr
  | [] => []
  | s :: ss => s.parts deep ++ Expr.stepParts deep ss

def Step.parts (deep : Bool) : Step → List Expr
  | ⟨_, _, predicates⟩ => if deep then Expr.listParts deep predicates else []

def Expr.clauseParts (deep : Bool) : List Clause → List Expr
  | [] => []
  | c :: cs => c.parts deep ++ Expr.clauseParts deep cs

def Clause.parts (deep : Bool) : Clause → List Expr
  | ⟨_, domain⟩ => domain.parts deep

end

end Rulebook
