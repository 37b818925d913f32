import Rulebook.Expr.Parser

/-!
# Writing expressions

The text of an expression: axes in full, one blank on both sides of an operator, parentheses
exactly where an operand binds more loosely than its place allows.

* `Level`              how tightly expressions bind, from loosest to tightest;
* `Spelling`           a numeral for each number that has one;
* `Expr.text`          an expression written down, and `Expr.textAt` the same at a place;
* `Expr.Normal`        an expression that has such a text.
-/

set_option autoImplicit false

namespace Rulebook

open Text

/-! ## levels -/

/-- how tightly an expression binds; as a place, what it takes without parentheses -/
inductive Level where
  /-- conditions and quantifiers, which stand alone -/
  | whole
  | sequence
  /-- a place that takes any operator, but no comma -/
  | single
  | disjunction
  | conjunction
  | equality
  | relation
  | range
  | sum
  | product
  | sign
  | union
  | path
  | filter
  | primary
deriving DecidableEq, Repr

namespace Level

def rank : Level → Nat
  | whole => 0
  | sequence => 1
  | single => 2
  | disjunction => 3
  | conjunction => 4
  | equality => 5
  | relation => 6
  | range => 7
  | sum => 8
  | product => 9
  | sign => 10
  | union => 11
  | path => 12
  | filter => 13
  | primary => 14

/-- the next tighter one -/
def next : Level → Level
  | whole => sequence
  | sequence => single
  | single => disjunction
  | disjunction => conjunction
  | conjunction => equality
  | equality => relation
  | relation => range
  | range => sum
  | sum => product
  | product => sign
  | sign => union
  | union => path
  | path => filter
  | filter => primary
  | primary => primary

instance : LE Level := ⟨fun p q => p.rank ≤ q.rank⟩

instance (p q : Level) : Decidable (p ≤ q) := inferInstanceAs (Decidable (p.rank ≤ q.rank))

/-- a text of one level at a place of another, in parentheses if it binds more loosely -/
def place (slot level : Level) (text : List Char) : List Char :=
  if slot ≤ level then text else '(' :: (text ++ [')'])

end Level

def BinaryOp.level : BinaryOp → Level
  | .or => .disjunction
  | .and => .conjunction
  | .general .eq | .general .ne | .value .eq | .value .ne => .equality
  | .general _ | .value _ => .relation
  | .add | .subtract => .sum
  | .multiply | .divide | .modulo => .product
  | .union => .union

def Expr.level : Expr → Level
  | .literal _ | .number _ | .var _ | .call .. => .primary
  | .path .. => .path
  | .binary op _ _ => op.level
  | .negate _ => .sign
  | .filter .. => .filter
  | .sequence items => if items.isEmpty then .primary else .sequence
  | .conditional .. | .quantified .. => .whole
  | .range .. => .range

/-! ## words -/

def BinaryOp.symbol : BinaryOp → String
  | .or => "or"
  | .and => "and"
  | .general .eq => "="
  | .general .ne => "!="
  | .general .lt => "<"
  | .general .le => "<="
  | .general .gt => ">"
  | .general .ge => ">="
  | .value .eq => "eq"
  | .value .ne => "ne"
  | .value .lt => "lt"
  | .value .le => "le"
  | .value .gt => "gt"
  | .value .ge => "ge"
  | .add => "+"
  | .subtract => "-"
  | .multiply => "*"
  | .divide => "div"
  | .modulo => "mod"
  | .union => "|"

def Quantifier.keyword : Quantifier → String
  | .some => "some"
  | .every => "every"

def KindTest.keyword : KindTest → String
  | .node => "node"
  | .text => "text"
  | .comment => "comment"
  | .instruction => "processing-instruction"

/-- the number is the value of a numeral -/
def IsNumeral (value : Float) : Prop := ∃ cs, Grammar.numeral cs = some (value, [])

/-- a numeral for each number that has one -/
structure Spelling where
  numeral : Float → List Char
  numeral_eq : ∀ {value : Float}, IsNumeral value →
    Grammar.numeral (numeral value) = some (value, [])

open scoped Classical in
noncomputable instance : Inhabited Spelling :=
  ⟨{ numeral := fun value => if h : IsNumeral value then h.choose else []
     numeral_eq := fun {value} h => by
       rw [dif_pos h]
       exact h.choose_spec }⟩

/-! ## texts -/

/-- texts in a row with a separator between them -/
def joined (separator : List Char) : List (List Char) → List Char
  | [] => []
  | text :: texts => text ++ texts.flatMap (separator ++ ·)

def NodeTest.text : NodeTest → List Char
  | .any => ['*']
  | .named none localPart => localPart.toList
  | .named (some qualifier) localPart => qualifier.toList ++ ':' :: localPart.toList
  | .within qualifier => qualifier.toList ++ [':', '*']
  | .kind k => k.keyword.toList ++ ['(', ')']

/-- in single quotes, unless the text holds one -/
def quotedText (text : String) : List Char :=
  let quote := if text.toList.contains '\'' then '"' else '\''
  quote :: (text.toList ++ [quote])

section
variable (spelling : Spelling)

mutual

def Expr.text : Expr → List Char
  | .literal text => quotedText text
  | .number value => spelling.numeral value
  | .path origin steps => Origin.text origin ++ joined ['/'] (Expr.stepTexts steps)
  | .var name => '$' :: name.toList
  | .call name args => name.toList ++ '(' :: (joined [',', ' '] (Expr.itemTexts args) ++ [')'])
  | .binary op left right =>
    op.level.place left.level (Expr.text left) ++ ' ' :: (op.symbol.toList ++ ' ' ::
      op.level.next.place right.level (Expr.text right))
  | .negate operand => '-' :: Level.sign.place operand.level (Expr.text operand)
  | .filter base predicates =>
    Level.primary.place base.level (Expr.text base) ++ Expr.predicateText predicates
  | .sequence items =>
    if items.isEmpty then ['(', ')'] else joined [',', ' '] (Expr.itemTexts items)
  | .conditional test yes no =>
    "if".toList ++ ' ' :: '(' :: (Level.sequence.place test.level (Expr.text test) ++ ')' :: ' ' ::
      ("then".toList ++ ' ' :: (Level.single.place yes.level (Expr.text yes) ++ ' ' ::
        ("else".toList ++ ' ' :: Level.single.place no.level (Expr.text no)))))
  | .quantified quantifier clauses satisfies =>
    quantifier.keyword.toList ++ ' ' :: (joined [',', ' '] (Expr.clauseTexts clauses) ++ ' ' ::
      ("satisfies".toList ++ ' ' :: Level.single.place satisfies.level (Expr.text satisfies)))
  | .range first last =>
    Level.sum.place first.level (Expr.text first) ++ ' ' :: ("to".toList ++ ' ' ::
      Level.sum.place last.level (Expr.text last))

/-- what stands before the first step -/
def Origin.text : Origin → List Char
  | .context => []
  | .root => ['/']
  | .value e => Level.filter.place e.level (Expr.text e) ++ ['/']

/-- places that take no comma -/
def Expr.itemTexts : List Expr → List (List Char)
  | [] => []
  | e :: es => Level.single.place e.level (Expr.text e) :: Expr.itemTexts es

def Expr.predicateText : List Expr → List Char
  | [] => []
  | e :: es =>
    '[' :: (Level.sequence.place e.level (Expr.text e) ++ [']']) ++ Expr.predicateText es

def Expr.stepTexts : List Step → List (List Char)
  | [] => []
  | s :: ss => Step.text s :: Expr.stepTexts ss

def Step.text : Step → List Char
  | ⟨axis, test, predicates⟩ =>
    axis.keyword.toList ++ ':' :: ':' :: (test.text ++ Expr.predicateText predicates)

def Expr.clauseTexts : List Clause → List (List Char)
  | [] => []
  | c :: cs => Clause.text c :: Expr.clauseTexts cs

def Clause.text : Clause → List Char
  | ⟨name, domain⟩ =>
    '$' :: (name.toList ++ ' ' :: ("in".toList ++ ' ' ::
      Level.single.place domain.level (Expr.text domain)))

end

/-- an expression at a place -/
def Expr.textAt (place : Level) (e : Expr) : List Char := place.place e.level (e.text spelling)

/-- the text of an expression that stands alone -/
def Expr.render (e : Expr) : String := String.ofList (e.text spelling)

example : (Expr.binary .subtract (.binary .subtract (.var "a") (.var "b"))
    (.binary .add (.var "c") (.negate (.var "d")))).render spelling = "$a - $b - ($c + -$d)" := rfl

theorem Expr.itemTexts_eq (es : List Expr) :
    Expr.itemTexts spelling es = es.map (Expr.textAt spelling .single) := by
  induction es with
  | nil => rfl
  | cons e es ih => rw [Expr.itemTexts, ih]; rfl

theorem Expr.predicateText_eq (es : List Expr) :
    Expr.predicateText spelling es =
      es.flatMap fun e => '[' :: (e.textAt spelling .sequence ++ [']']) := by
  induction es with
  | nil => rfl
  | cons e es ih => rw [Expr.predicateText, ih]; rfl

theorem Expr.stepTexts_eq (ss : List Step) :
    Expr.stepTexts spelling ss = ss.map (Step.text spelling) := by
  induction ss with
  | nil => rfl
  | cons s ss ih => rw [Expr.stepTexts, ih]; rfl

theorem Expr.clauseTexts_eq (cs : List Clause) :
    Expr.clauseTexts spelling cs = cs.map (Clause.text spelling) := by
  induction cs with
  | nil => rfl
  | cons c cs ih => rw [Expr.clauseTexts, ih]; rfl

end

/-! ## expressions with a text -/

/-- a name without colon -/
def IsName : List Char → Prop
  | c :: cs => isNameStart c = true ∧ cs.all isNameChar = true
  | [] => False

/-- a name, or two joined by a colon -/
def IsQualifiedName (name : String) : Prop :=
  IsName name.toList ∨
    ∃ first second, IsName first ∧ IsName second ∧ name.toList = first ++ ':' :: second

def NodeTest.Lexical : NodeTest → Prop
  | .any | .kind _ => True
  | .named qualifier localPart => (∀ q ∈ qualifier, IsName q.toList) ∧ IsName localPart.toList
  | .within qualifier => IsName qualifier.toList

/-- what the text of an expression asks of it, its parts aside -/
def Expr.Lexical : Expr → Prop
  | .literal text => ¬ ('\'' ∈ text.toList ∧ '"' ∈ text.toList)
  | .number value => IsNumeral value
  | .path origin steps =>
    (∀ s ∈ steps, s.test.Lexical) ∧
      match origin with
      | .context => steps ≠ []
      | .root => True
      | .value e => steps ≠ [] ∧ e.isPath = false
  | .var name => IsQualifiedName name
  | .call name _ => IsQualifiedName name ∧ Grammar.isKindName name = false
  | .filter _ predicates => predicates ≠ []
  | .sequence items => items.length ≠ 1
  | .quantified _ clauses _ => clauses ≠ [] ∧ ∀ c ∈ clauses, IsQualifiedName c.name
  | .binary .. | .negate _ | .conditional .. | .range .. => True

/-- its text can be read back: all its parts are lexical, those in predicates too -/
def Expr.Normal (e : Expr) : Prop := ∀ x ∈ e.parts true, x.Lexical

end Rulebook
