import Rulebook.Regex.Compile

/-!
# Keeping compiled patterns

A cache keeps patterns that were compiled, each under its text and its flags, up to a fixed number
of them.  Looking a pattern up gives what compiling it would, whichever builder that is done with.
-/

namespace Rulebook.Regex

structure Cache (α : Type) where
  entries : List ((String × String) × α)

namespace Cache

variable {α : Type}

def empty : Cache α := ⟨[]⟩

/-- how many patterns are kept -/
def capacity : Nat := 64

def size (c : Cache α) : Nat := c.entries.length

def get? (c : Cache α) (source flags : String) : Option α := c.entries.lookup (source, flags)

/-- keeps a pattern if there is room for it -/
def insert (c : Cache α) (source flags : String) (p : α) : Cache α :=
  if c.size < capacity then ⟨((source, flags), p) :: c.entries⟩ else c

/-- the pattern with a text and flags, kept or newly compiled, and the cache afterwards -/
def compile (build : Builder α) (c : Cache α) (source flags : String) :
    Except PatternError α × Cache α :=
  match c.get? source flags with
  | some p => (.ok p, c)
  | none =>
    match compileWith build source flags with
    | .ok p => (.ok p, c.insert source flags p)
    | .error e => (.error e, c)

end Cache

end Rulebook.Regex
