import Rulebook.Expr.Basic
import Rulebook.Number.Decimal
import Rulebook.Text.Alphabet
import Rulebook.Text.Scan

/-!
# The grammar of expressions

One scan for each rule of the grammar.  From loosest to tightest bind `or`, `and`, equality,
relations, `to`, sums, products, signs, `|` and paths.  The rules that contain whole expressions
again take the scan for those, `single`, as a parameter; `Grammar.single` ties the knot.  Each use
of it comes after at least one character, so an expression is nested at most as deep as it is long.
-/

namespace Rulebook.Grammar

open Text

/-! ## tokens -/

def isSpace (c : Char) : Bool := c == ' ' || c == '\t' || c == '\r' || c == '\n'

def blanks : Scan Unit := fun cs => some ((), cs.dropWhile isSpace)

/-- with blanks on both sides -/
def spaced {α : Type} (p : Scan α) : Scan α := do
  blanks
  let a ← p
  blanks
  return a

/-- a word that is not the beginning of a longer name -/
def word (w : String) : Scan Unit := do
  Scan.text w
  Scan.notFollowedBy (Scan.satisfy isNameChar)

def between {α : Type} (left right : Char) (p : Scan α) : Scan α := do
  spaced (Scan.char left)
  let a ← p
  spaced (Scan.char right)
  return a

def comma : Scan Unit := spaced (Scan.char ',')

/-- a name without colon -/
def name : Scan (List Char) := do
  let c ← Scan.satisfy isNameStart
  let cs ← Scan.takeWhile isNameChar
  return c :: cs

/-- a name, or two joined by a colon -/
def qualifiedName : Scan String := do
  let first ← name
  let second ← Scan.optional? (Scan.char ':' *> name)
  return String.ofList (match second with
    | some second => first ++ ':' :: second
    | none => first)

/-- digits with a point after, among or before them -/
def numeral : Scan Float :=
  (do
    let whole ← Scan.takeWhile1 Number.isDigit
    let fraction ← Scan.optional? (Scan.char '.' *> Scan.takeWhile Number.isDigit)
    let places := fraction.getD []
    return Number.ofDecimal false ⟨Number.digitsValue (whole ++ places), -places.length⟩) <|>
  (do
    Scan.char '.'
    let places ← Scan.takeWhile1 Number.isDigit
    return Number.ofDecimal false ⟨Number.digitsValue places, -places.length⟩)

/-- a text between two quotes of one kind -/
def quoted (quote : Char) : Scan String := do
  Scan.char quote
  let cs ← Scan.takeWhile (· != quote)
  Scan.char quote
  return String.ofList cs

def literal : Scan String := quoted '\'' <|> quoted '"'

/-! ## node tests and axes -/

def kindTest : Scan KindTest := do
  let kind ← Scan.choose [
    (Scan.text "text", KindTest.text),
    (Scan.text "node", .node),
    (Scan.text "comment", .comment),
    (Scan.text "processing-instruction", .instruction)]
  spaced (Scan.char '(')
  spaced (Scan.char ')')
  return kind

def nameTest : Scan NodeTest := do
  let first ← name
  let second ← Scan.optional? (Scan.char ':' *> name)
  return match second with
    | some second => .named (some (String.ofList first)) (String.ofList second)
    | none => .named none (String.ofList first)

def nodeTest : Scan NodeTest := Scan.first [
  Scan.char '*' *> pure .any,
  NodeTest.kind <$> kindTest,
  (do
    let qualifier ← name
    Scan.text ":*"
    return .within (String.ofList qualifier)),
  nameTest]

/-- the name of an axis with the double colon -/
def axis : Scan Axis :=
  Scan.choose (Axis.all.map fun a => (Scan.text a.keyword, a)) <* Scan.text "::"

/-! ## operators -/

def orOp : Scan BinaryOp := word "or" *> pure .or

def andOp : Scan BinaryOp := word "and" *> pure .and

def equalityOp : Scan BinaryOp := Scan.choose [
  (Scan.text "=", .general .eq),
  (Scan.text "!=", .general .ne),
  (word "eq", .value .eq),
  (word "ne", .value .ne)]

/-- the signs may be written as character entities -/
def relationalOp : Scan BinaryOp := Scan.choose [
  (Scan.text "<=", .general .le),
  (Scan.text "&lt;=", .general .le),
  (Scan.text ">=", .general .ge),
  (Scan.text "&gt;=", .general .ge),
  (Scan.text "<", .general .lt),
  (Scan.text "&lt;", .general .lt),
  (Scan.text ">", .general .gt),
  (Scan.text "&gt;", .general .gt),
  (word "lt", .value .lt),
  (word "le", .value .le),
  (word "gt", .value .gt),
  (word "ge", .value .ge)]

def additiveOp : Scan BinaryOp := Scan.choose [
  (Scan.char '+', .add),
  (Scan.char '-', .subtract)]

def multiplicativeOp : Scan BinaryOp := Scan.choose [
  (Scan.char '*', .multiply),
  (word "div", .divide),
  (word "mod", .modulo)]

def unionOp : Scan BinaryOp := Scan.char '|' *> pure .union

/-- operands joined by operators of one level, from the left -/
def chain (op : Scan BinaryOp) (operand : Scan Expr) : Scan Expr := do
  let first ← operand
  let others ← Scan.many (do
    let o ← spaced op
    let e ← operand
    return (o, e))
  return others.foldl (fun left (o, right) => .binary o left right) first

/-! ## rules that contain expressions -/

section

variable (single : Scan Expr)

/-- a whole expression: one, or a sequence of several with commas -/
def expression : Scan Expr := do
  let items ← Scan.sepBy1 comma single
  return match items with
    | [e] => e
    | _ => .sequence items

def predicate : Scan Expr := between '[' ']' (expression single)

/-! ### paths -/

def stepStart : Scan (Axis × NodeTest) := Scan.first [
  Scan.text ".." *> pure (.parent, .kind .node),
  Scan.text "." *> pure (.self, .kind .node),
  (do
    Scan.char '@'
    let test ← nodeTest
    return (.attribute, test)),
  (do
    let axis ← Scan.optional? axis
    let test ← nodeTest
    return (axis.getD .child, test))]

def step : Scan Step := do
  let (axis, test) ← stepStart
  let predicates ← Scan.many (predicate single)
  return ⟨axis, test, predicates⟩

/-- what stands between two steps; true for `//` -/
def separator : Scan Bool := spaced (Scan.choose [(Scan.text "//", true), (Scan.text "/", false)])

/-- further steps, each after a separator -/
def moreSteps : Scan (List Step) := do
  let pairs ← Scan.many (do
    let deep ← separator
    let s ← step single
    return (deep, s))
  return pairs.flatMap fun (deep, s) => if deep then [.anywhere, s] else [s]

/-- a path from the root or from the context item -/
def locationPath : Scan Expr := fun cs =>
  match afterPrefix? ['/', '/'] cs, afterPrefix? ['/'] cs with
  | some rest, _ => (do
      let s ← step single
      let more ← moreSteps single
      return Expr.path .root (.anywhere :: s :: more) : Scan Expr) rest
  | none, some rest => (do
      let s ← Scan.optional? (step single)
      let more ← moreSteps single
      return Expr.path .root (s.toList ++ more) : Scan Expr) rest
  | none, none => (do
      let s ← step single
      let more ← moreSteps single
      return Expr.path .context (s :: more) : Scan Expr) cs

/-! ### primary expressions -/

def reference : Scan Expr := Expr.var <$> (Scan.char '$' *> qualifiedName)

/-- these read as node tests -/
def isKindName (s : String) : Bool :=
  s == "text" || s == "node" || s == "comment" || s == "processing-instruction"

def call : Scan Expr := do
  let function ← qualifiedName
  Scan.lookAhead (spaced (Scan.char '('))
  guard (!isKindName function)
  blanks
  Scan.char '('
  let args ← Scan.sepBy comma single
  spaced (Scan.char ')')
  return .call function args

def parenthesized : Scan Expr := do
  let e ← between '(' ')' (Scan.optional? (expression single))
  return e.getD (.sequence [])

def primary : Scan Expr := spaced (Scan.first [
  reference,
  Expr.number <$> numeral,
  Expr.literal <$> literal,
  call single,
  parenthesized single])

def filtered : Scan Expr := do
  let base ← primary single
  let predicates ← Scan.many (predicate single)
  return if predicates.isEmpty then base else .filter base predicates

/-- a path or a primary expression, with further steps; a path in parentheses goes on as itself -/
def path : Scan Expr := do
  let start ← filtered single <|> locationPath single
  let more ← moreSteps single
  return match more, start with
    | [], _ => start
    | _, .path origin steps => .path origin (steps ++ more)
    | _, _ => .path (.value start) more

/-! ### operators -/

def minusSigns : Scan (List Unit) := Scan.many (spaced (Scan.char '-'))

def union : Scan Expr := chain unionOp (path single)

def signed : Scan Expr := do
  let signs ← minusSigns
  let e ← union single
  return signs.foldl (fun e _ => .negate e) e

def product : Scan Expr := chain multiplicativeOp (signed single)

def sum : Scan Expr := chain additiveOp (product single)

def range : Scan Expr := do
  let first ← sum single
  let last ← Scan.optional? (spaced (word "to") *> sum single)
  return match last with
    | some last => .range first last
    | none => first

def relational : Scan Expr := chain relationalOp (range single)

def equality : Scan Expr := chain equalityOp (relational single)

def conjunction : Scan Expr := chain andOp (equality single)

def disjunction : Scan Expr := chain orOp (conjunction single)

/-! ### conditions and quantifiers -/

def conditional : Scan Expr := do
  spaced (word "if")
  let test ← between '(' ')' (expression single)
  spaced (word "then")
  let yes ← single
  spaced (word "else")
  let no ← single
  return .conditional test yes no

def clause : Scan Clause := do
  spaced (Scan.char '$')
  let name ← qualifiedName
  spaced (word "in")
  let domain ← single
  return ⟨name, domain⟩

def quantified : Scan Expr := do
  let q ← spaced (Scan.choose [(word "some", .some), (word "every", .every)])
  let clauses ← Scan.sepBy1 comma (clause single)
  spaced (word "satisfies")
  let satisfies ← single
  return .quantified q clauses satisfies

def singleBody : Scan Expr := Scan.first [conditional single, quantified single, disjunction single]

end

/-! ## nesting -/

/-- an expression without commas outside brackets, nested less than `depth` deep -/
def single : (depth : Nat) → Scan Expr
  | 0 => failure
  | depth + 1 => singleBody (single depth)

end Rulebook.Grammar
