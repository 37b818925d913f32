import Rulebook.Expr.Parser
import Rulebook.Text.Case

/-!
# Compiled expressions

A binding says which language expressions are written in, a dialect how much of it a place admits.
`compile` reads a text and refuses what the two do not admit; `compileSelector` also lets relative
paths match anywhere in the document.
-/

namespace Rulebook

open Text

/-! ## bindings and dialects -/

inductive Binding where
  | xpath1
  | xpath2
deriving DecidableEq, Repr

namespace Binding

/-- the binding with a tag, in any case and with blanks around it; none is the first one -/
def ofTag? (tag : String) : Option Binding :=
  let tag := lowerAscii (trim tag)
  if ["", "xslt", "xslt1", "xpath"].contains tag then some xpath1
  else if ["xslt2", "xpath2", "xslt3", "xpath3", "xpath31"].contains tag then some xpath2
  else none

def tag : Binding → String
  | xpath1 => "xslt"
  | xpath2 => "xslt2"

end Binding

inductive Dialect where
  /-- all that the binding admits -/
  | full
  /-- only what has a value without context, for variables declared outside rules -/
  | literal
deriving DecidableEq, Repr

/-! ## what is refused -/

/-- constructs of the second binding that the first lacks -/
inductive Construct where
  | conditional
  | quantified
  | range
  | sequence
  | valueComparison
deriving DecidableEq, Repr

def Construct.name : Construct → String
  | conditional => "if/then/else"
  | quantified => "quantified expressions"
  | range => "the 'to' range operator"
  | sequence => "sequence constructors"
  | valueComparison => "value comparisons (eq, ne, lt, le, gt, ge)"

/-- the construct at the top of an expression -/
def Expr.construct? : Expr → Option Construct
  | .conditional .. => some .conditional
  | .quantified .. => some .quantified
  | .range .. => some .range
  | .sequence _ => some .sequence
  | .binary (.value _) _ _ => some .valueComparison
  | _ => none

/-- the first construct in an expression, at any depth -/
def Expr.findConstruct? (e : Expr) : Option Construct := (e.parts true).findSome? Expr.construct?

/-- what depends on the context -/
inductive ContextUse where
  | relativePath
  | function (name : String)
deriving DecidableEq, Repr

/-- a function name without the optional prefix `fn:` -/
def plainFunctionName (name : String) : String :=
  match afterPrefix? ['f', 'n', ':'] name.toList with
  | some rest => String.ofList rest
  | none => name

/-- the dependence at the top of an expression -/
def Expr.contextUse? : Expr → Option ContextUse
  | .path .context _ => some .relativePath
  | .call name _ =>
    let plain := plainFunctionName name
    if ["position", "last", "current"].contains plain then some (.function plain) else none
  | _ => none

/-- the first dependence in an expression; predicates have a context of their own -/
def Expr.findContextUse? (e : Expr) : Option ContextUse :=
  (e.parts false).findSome? Expr.contextUse?

/-! ## errors -/

inductive CompileError where
  | parse (e : ParseError)
  /-- the construct is not in the language of the binding -/
  | construct (source : String) (c : Construct)
  /-- the expression needs a context where there is none -/
  | context (source : String) (u : ContextUse)
deriving DecidableEq, Repr

def CompileError.message : CompileError → String
  | parse e => e.message
  | construct source c =>
    "Expression '" ++ source ++ "' is not allowed here: " ++ c.name ++
      " require the xslt2 query binding"
  | context source .relativePath =>
    "Expression '" ++ source ++ "' is not allowed here: " ++
      "relative paths need a context item and are not allowed in this declaration"
  | context source (.function name) =>
    "Expression '" ++ source ++ "' is not allowed here: " ++ name ++
      "() needs a context and is not allowed in this declaration"

/-! ## compiling -/

structure Compiled where
  source : String
  binding : Binding
  dialect : Dialect
  expr : Expr

/-- refuses constructs before uses of the context -/
def Expr.check (source : String) (e : Expr) (binding : Binding) (dialect : Dialect) :
    Except CompileError Unit := do
  if binding = .xpath1 then
    if let some c := e.findConstruct? then throw (.construct source c)
  if dialect = .literal then
    if let some u := e.findContextUse? then throw (.context source u)

def compile (source : String) (binding : Binding) (dialect : Dialect) :
    Except CompileError Compiled := do
  let e ← (Expr.parse source).mapError .parse
  e.check source binding dialect
  return ⟨source, binding, dialect, e⟩

theorem Expr.check_eq_ok_iff {source : String} {e : Expr} {binding : Binding} {dialect : Dialect} :
    e.check source binding dialect = .ok () ↔
      (binding = .xpath1 → e.findConstruct? = none) ∧
        (dialect = .literal → e.findContextUse? = none) := by
  unfold check
  cases binding <;> cases dialect <;> cases e.findConstruct? <;> cases e.findContextUse? <;>
    simp [throw, throwThe, MonadExceptOf.throw, bind, Except.bind, pure, Except.pure]

theorem compile_eq_ok_iff {source : String} {binding : Binding} {dialect : Dialect}
    {c : Compiled} :
    compile source binding dialect = .ok c ↔
      ∃ e, Expr.parse source = .ok e ∧ e.check source binding dialect = .ok () ∧
        c = ⟨source, binding, dialect, e⟩ := by
  unfold compile
  cases Expr.parse source with
  | error x => exact ⟨nofun, nofun⟩
  | ok e =>
    show (e.check source binding dialect >>= _) = _ ↔ _
    cases hcheck : e.check source binding dialect with
    | error x =>
      constructor
      · exact nofun
      · rintro ⟨_, hp, hc, -⟩
        cases hp
        rw [hcheck] at hc
        cases hc
    | ok =>
      constructor
      · intro h
        cases h
        exact ⟨e, rfl, hcheck, rfl⟩
      · rintro ⟨_, hp, -, rfl⟩
        cases hp
        rfl

/-- relative paths, also as branches of a union, begin at any node of the document -/
def Expr.anchored : Expr → Expr
  | .path .context steps => .path .root (.anywhere :: steps)
  | .binary .union left right => .binary .union left.anchored right.anchored
  | e => e

/-- the context of a rule -/
def compileSelector (source : String) (binding : Binding) : Except CompileError Compiled := do
  let c ← compile source binding .full
  return { c with expr := c.expr.anchored }

end Rulebook
