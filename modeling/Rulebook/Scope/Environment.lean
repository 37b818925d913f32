import Rulebook.Expr.Compiled
import Rulebook.Scope.Table

/-!
# Environments

Declared variables stand for expressions, declared functions for lists of statements.  Declarations
are made at several levels; an environment is the list of the levels that a place can see, the
innermost first.  A name means what the nearest level says that has it.
-/

namespace Rulebook

/-! ## functions -/

/-- a parameter with the type it is annotated with; values are not checked against it -/
structure Parameter where
  name : String
  annotation : Option String
deriving DecidableEq, Repr

inductive Statement where
  /-- a variable for the statements that follow -/
  | bind (name : String) (value : Compiled)
  /-- part of the result -/
  | yield (value : Compiled)

def Statement.value : Statement → Compiled
  | .bind _ value => value
  | .yield value => value

structure FunctionDecl where
  name : String
  parameters : List Parameter
  /-- an annotation, like those of the parameters -/
  result : Option String
  body : List Statement

def FunctionDecl.arity (f : FunctionDecl) : Nat := f.parameters.length

/-! ## declarations -/

/-- what one level declares; variables and functions do not share their names -/
structure Declarations where
  definitions : Table Compiled
  functions : Table FunctionDecl

namespace Declarations

def empty : Declarations := ⟨∅, ∅⟩

instance : EmptyCollection Declarations := ⟨empty⟩

instance : Inhabited Declarations := ⟨empty⟩

def define (d : Declarations) (name : String) (c : Compiled) : Declarations :=
  { d with definitions := d.definitions.insert name c }

def defineFunction (d : Declarations) (f : FunctionDecl) : Declarations :=
  { d with functions := d.functions.insert f.name f }

end Declarations

abbrev Environment := List Declarations

namespace Environment

/-- the definition of a variable, and the environment of the level that has it -/
def definition? (name : String) : Environment → Option (Compiled × Environment)
  | [] => none
  | d :: outer =>
    match d.definitions.get? name with
    | some c => some (c, d :: outer)
    | none => definition? name outer

def function? (name : String) (env : Environment) : Option FunctionDecl :=
  env.findSome? fun d => d.functions.get? name

end Environment

end Rulebook
