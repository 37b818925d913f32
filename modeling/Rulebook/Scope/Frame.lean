import Rulebook.Scope.Environment
import Rulebook.Value.Item

/-!
# Scopes

A call of a function or a quantifier binds names to values in a frame.  A scope is the frames in
force, the innermost first, over an environment: a name means the value in the nearest frame that
has it, and else what the environment says.
-/

namespace Rulebook

structure Frame where
  /-- whose names these are: a function, or the variable of a quantifier -/
  owner : String
  bindings : Table Value

namespace Frame

def new (owner : String) : Frame := ⟨owner, ∅⟩

def bind (f : Frame) (name : String) (v : Value) : Frame :=
  { f with bindings := f.bindings.insert name v }

end Frame

structure Scope where
  frames : List Frame
  environment : Environment

/-- what a name of a variable means -/
inductive Meaning where
  | value (v : Value)
  /-- an expression, to be evaluated where it was declared -/
  | definition (c : Compiled) (env : Environment)

namespace Scope

def ofEnvironment (env : Environment) : Scope := ⟨[], env⟩

/-- a scope with one more frame -/
def enter (s : Scope) (f : Frame) : Scope := { s with frames := f :: s.frames }

def value? (s : Scope) (name : String) : Option Value :=
  s.frames.findSome? fun f => f.bindings.get? name

def lookup (s : Scope) (name : String) : Option Meaning :=
  match s.value? name with
  | some v => some (.value v)
  | none => (s.environment.definition? name).map fun (c, env) => .definition c env

/-- functions are declared in environments alone -/
def function? (s : Scope) (name : String) : Option FunctionDecl := s.environment.function? name

end Scope

end Rulebook
