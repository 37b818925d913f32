import Rulebook.Eval.Builtin
import Rulebook.Value.Operator

/-!
# Evaluation

`Expr.evaluateWith` evaluates an expression by recursion on it, given how the definitions are
evaluated that it refers to.  `Expr.evaluateWithin` does so for a number of levels of definitions,
and `Expr.evaluate` takes the number from the context, which admits no more.
-/

namespace Rulebook

/-- what a name in a call means: a declared function comes before a built-in one -/
inductive Callable where
  | declared (f : FunctionDecl)
  | builtin (b : Builtin)

def Callable.ofName? (s : Scope) (name : String) : Option Callable :=
  match s.function? name with
  | some f => some (.declared f)
  | none => (Builtin.ofName? name).map .builtin

/-- how definitions are evaluated -/
abbrev Evaluator := Expr → Context → Except EvalError Value

/-! ## definitions -/

/-- a frame with the arguments of a call -/
def FunctionDecl.frame (f : FunctionDecl) (args : List Value) : Frame :=
  (f.parameters.zip args).foldl (fun frame (p, v) => frame.bind p.name v) (.new f.name)

/-- the statements of a body one after the other, with the results in front of theirs -/
def runBody (inner : Evaluator) (c : Context) (outer : Scope) (frame : Frame) (result : Value) :
    List Statement → Except EvalError Value
  | [] => .ok result
  | .bind name e :: rest => do
    let v ← inner e.expr (c.withScope (outer.enter frame))
    runBody inner c outer (frame.bind name v) result rest
  | .yield e :: rest => do
    let v ← inner e.expr (c.withScope (outer.enter frame))
    runBody inner c outer frame (result ++ v) rest

/-- a call of a declared function: its body sees the names of the caller -/
def FunctionDecl.call (inner : Evaluator) (f : FunctionDecl) (args : List Value) (c : Context) :
    Except EvalError Value := do
  if args.length != f.arity then
    throw (.arity f.name f.arity (some f.arity) args.length)
  let deeper ← c.descend
  runBody inner deeper c.scope (f.frame args) [] f.body

def Callable.invoke (inner : Evaluator) (f : Callable) (args : List Value) (c : Context) :
    Except EvalError Value :=
  match f with
  | declared f => f.call inner args c
  | builtin b => b.invoke args c

/-- a declared variable is evaluated where it was declared, about the item it is used for -/
def evaluateVariable (inner : Evaluator) (name : String) (c : Context) : Except EvalError Value :=
  match c.scope.lookup name with
  | some (.value v) => .ok v
  | some (.definition e env) => do
    let deeper ← c.descend
    inner e.expr (deeper.withScope (.ofEnvironment env))
  | none => .error (.unknownVariable name)

/-! ## node tests -/

/-- a node test whose prefix is resolved -/
inductive Matcher where
  | any
  | localPart (name : String)
  | named (uri name : String)
  | within (uri : String)
  | kind (k : KindTest)
deriving DecidableEq, Repr

/-- the namespace of a prefix; that of `xml` is fixed -/
def namespaceOf (namespaces : Table String) (qualifier : String) : Except EvalError String :=
  if qualifier == "xml" then .ok xmlNamespace
  else match namespaces.get? qualifier with
    | some uri => .ok uri
    | none => .error (.unknownPrefix qualifier)

def NodeTest.resolve (namespaces : Table String) : NodeTest → Except EvalError Matcher
  | .any => .ok .any
  | .named none name => .ok (.localPart name)
  | .named (some q) name => (namespaceOf namespaces q).map fun uri => .named uri name
  | .within q => (namespaceOf namespaces q).map .within
  | .kind k => .ok (.kind k)

def KindTest.accepts (k : KindTest) (d : Document) (n : Node) : Bool :=
  match k with
  | .node => true
  | .text => d.kind n == .text
  | .comment => d.kind n == .comment
  | .instruction => d.kind n == .instruction

/-- tests of names are about the principal kind of an axis, elements or attributes -/
def Matcher.accepts (m : Matcher) (d : Document) (principal : NodeKind) (n : Node) : Bool :=
  match m with
  | kind k => k.accepts d n
  | any => named fun _ => true
  | localPart name => named fun q => q.localPart == name
  | .named uri name => named fun q => q.localPart == name && q.uri == some uri
  | within uri => named fun q => q.uri == some uri
where
  named (p : Name → Bool) : Bool := n.isAttribute == (principal == .attribute) && (d.qualified? n).any p

/-! ## predicates and ranges -/

/-- a single number keeps the item at that position, anything else decides as a condition -/
def keeps (v : Value) (position : Nat) : Bool :=
  match v with
  | [.atomic (.number x)] => x == Number.ofNat position
  | v => v.truth

/-- the items that a predicate keeps, each looked at with its position; `kept` holds those found so
far, the last first -/
def filterItems (test : Context → Except EvalError Value) (c : Context) (size : Nat) :
    Nat → Value → Value → Except EvalError Value
  | _, [], kept => .ok kept.reverse
  | position, i :: rest, kept => do
    let v ← test (c.focus i position size)
    filterItems test c size (position + 1) rest (if keeps v position then i :: kept else kept)

/-- the largest whole number up to which doubles hold all -/
def maxExact : Nat := Nat.pow 2 53

/-- the whole number that a value stands for as a bound, nothing for an empty one -/
def rangeBound? (d : Document) (v : Value) : Except EvalError (Option Int) := do
  match ← v.single? d with
  | none => return none
  | some a =>
    match Number.toInt? a.asNumber with
    | some n => if n.natAbs ≤ maxExact then return some n else throw (.rangeBound a.asText)
    | none => throw (.rangeBound a.asText)

/-- the numbers from a bound to another, both included -/
def rangeItems (first last : Int) : Value :=
  (List.range (last - first + 1).toNat).map fun i => .atomic (.number (Number.ofInt (first + Int.ofNat i)))

def rangeValue : Option Int → Option Int → Except EvalError Value
  | some first, some last =>
    if last - first ≥ maxRangeLength then .error (.rangeTooLong first last)
    else .ok (rangeItems first last)
  | _, _ => .ok []

/-! ## quantifiers -/

/-- `some`: an item that satisfies the condition is enough; `every`: one that does not is -/
def quantify (q : Quantifier) (test : Item → Except EvalError Bool) :
    Value → Except EvalError Bool
  | [] => .ok (q == .every)
  | i :: rest => do
    let holds ← test i
    if holds == (q == .some) then return holds else quantify q test rest

/-- a context in which a variable stands for one item -/
def Context.bindItem (c : Context) (name : String) (i : Item) : Context :=
  c.withScope (c.scope.enter ((Frame.new ("$" ++ name)).bind name [i]))

/-! ## paths -/

/-- the step `.` alone, which also a literal has -/
def isSelfStep : List Step → Bool
  | [⟨.self, .kind .node, []⟩] => true
  | _ => false

/-! ## expressions -/

mutual

/-- the value of an expression in a context -/
def Expr.evaluateWith (inner : Evaluator) : Expr → Context → Except EvalError Value
  | .literal s, _ => .ok (.ofText s)
  | .number x, _ => .ok (.ofNumber x)
  | .path origin steps, c => do
    match origin, c.item, isSelfStep steps with
    | .context, .atomic a, true => return [.atomic a]
    | _, _, _ =>
      let start ← origin.evaluateWith inner c
      let ns ← evaluateSteps inner steps c start
      return .ofNodes ns
  | .var name, c => evaluateVariable inner name c
  | .call name args, c =>
    match Callable.ofName? c.scope name with
    | none => .error (.unknownFunction name)
    | some f => do
      let vs ← evaluateAll inner args c
      f.invoke inner vs c
  | .binary .and left right, c => do
    if (← left.evaluateWith inner c).truth then
      return .ofBool (← right.evaluateWith inner c).truth
    else return .ofBool false
  | .binary .or left right, c => do
    if (← left.evaluateWith inner c).truth then return .ofBool true
    else return .ofBool (← right.evaluateWith inner c).truth
  | .binary op left right, c => do
    let v ← left.evaluateWith inner c
    let w ← right.evaluateWith inner c
    op.apply c.document v w
  | .negate e, c => do
    let v ← e.evaluateWith inner c
    return .ofNumber (-(← v.operand c.document))
  | .filter base predicates, c => do
    let v ← base.evaluateWith inner c
    applyPredicates inner predicates c v
  | .sequence es, c => return (← evaluateAll inner es c).flatten
  | .conditional test yes no, c => do
    if (← test.evaluateWith inner c).truth then yes.evaluateWith inner c
    else no.evaluateWith inner c
  | .quantified q clauses satisfies, c =>
    (evaluateClauses inner q (fun c => (satisfies.evaluateWith inner c).map Value.truth) clauses c).map
      .ofBool
  | .range first last, c => do
    let a ← rangeBound? c.document (← first.evaluateWith inner c)
    let b ← rangeBound? c.document (← last.evaluateWith inner c)
    rangeValue a b

/-- the nodes that a path begins with -/
def Origin.evaluateWith (inner : Evaluator) : Origin → Context → Except EvalError (List Node)
  | .context, c => c.node.map fun n => [n]
  | .root, c => .ok [c.root]
  | .value e, c => do (← e.evaluateWith inner c).nodes

/-- the values of several expressions in one context -/
def evaluateAll (inner : Evaluator) : List Expr → Context → Except EvalError (List Value)
  | [], _ => .ok []
  | e :: es, c => do
    let v ← e.evaluateWith inner c
    let vs ← evaluateAll inner es c
    return v :: vs

/-- the items that all predicates keep, each predicate counting what the one before left -/
def applyPredicates (inner : Evaluator) : List Expr → Context → Value → Except EvalError Value
  | [], _, v => .ok v
  | p :: ps, c, v => do
    let kept ← filterItems (p.evaluateWith inner) c v.length 1 v []
    applyPredicates inner ps c kept

/-- steps one after the other -/
def evaluateSteps (inner : Evaluator) : List Step → Context → List Node →
    Except EvalError (List Node)
  | [], _, ns => .ok ns
  | s :: ss, c, ns => do
    let found ← s.evaluateWith inner c ns
    evaluateSteps inner ss c found

/-- one step from every node: predicates count along the axis of each node, the results of all are
put in document order -/
def Step.evaluateWith (inner : Evaluator) : Step → Context → List Node →
    Except EvalError (List Node)
  | ⟨axis, test, predicates⟩, c, ns => do
    let m ← test.resolve c.namespaces
    let found ← ns.foldlM (fun (row : Node.Row) n => do
      let kept ← applyPredicates inner predicates c
        (.ofNodes ((c.document.along n axis).filter (m.accepts c.document axis.principal)))
      return row.add (kept.filterMap Item.node?)) []
    return found.nodes

/-- a condition under every choice of items for the clauses; later clauses see earlier ones -/
def evaluateClauses (inner : Evaluator) (q : Quantifier) (body : Context → Except EvalError Bool) :
    List Clause → Context → Except EvalError Bool
  | [], c => body c
  | clause :: rest, c => do
    let v ← clause.domainWith inner c
    quantify q (fun i => evaluateClauses inner q body rest (c.bindItem clause.name i)) v

/-- the items that a clause ranges over -/
def Clause.domainWith (inner : Evaluator) : Clause → Context → Except EvalError Value
  | ⟨_, domain⟩, c => domain.evaluateWith inner c

end

/-! ## levels of definitions -/

/-- evaluation with at most so many definitions one inside the other -/
def Expr.evaluateWithin : Nat → Evaluator
  | 0 => Expr.evaluateWith fun _ c => .error (.depthExceeded c.maxDepth)
  | n + 1 => Expr.evaluateWith (Expr.evaluateWithin n)

/-- the value of an expression; the depth that the context allows bounds the definitions -/
def Expr.evaluate (e : Expr) (c : Context) : Except EvalError Value :=
  Expr.evaluateWithin c.remaining e c

def Compiled.evaluate (e : Compiled) (c : Context) : Except EvalError Value := e.expr.evaluate c

end Rulebook
