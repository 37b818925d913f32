import Rulebook.Scope.Frame

/-!
# Forests of scopes

Scopes that are made one after the other, each within an earlier one or within none, and numbered
in that order.  A declaration made later in an outer scope is seen by all inner ones.
-/

namespace Rulebook

inductive ForestScope where
  | level (declarations : Declarations) (outer : Option Nat)
  | frame (f : Frame) (outer : Nat)

/-- the scopes by their numbers -/
structure Forest where
  scopes : List ForestScope

namespace Forest

def empty : Forest := ⟨[]⟩

def size (t : Forest) : Nat := t.scopes.length

/-- a level within an earlier scope; its number is the size so far -/
def addLevel (t : Forest) (outer : Option Nat) : Forest := ⟨t.scopes ++ [.level ∅ outer]⟩

def addFrame (t : Forest) (f : Frame) (outer : Nat) : Forest := ⟨t.scopes ++ [.frame f outer]⟩

/-- the scope around a scope, which is an earlier one -/
def outer? (t : Forest) (i : Nat) : Option Nat :=
  match t.scopes[i]? with
  | some (.level _ o) => o
  | some (.frame _ o) => some o
  | none => none

/-- a scope and those around it, from the inside -/
def chain (t : Forest) (i : Nat) : List Nat :=
  match t.outer? i with
  | some o => if o < i then i :: t.chain o else [i]
  | none => [i]
termination_by i

theorem chain_of_outermost {t : Forest} {i : Nat} (h : t.outer? i = none) : t.chain i = [i] := by
  rw [chain, h]

theorem chain_of_outer {t : Forest} {i o : Nat} (h : t.outer? i = some o) (earlier : o < i) :
    t.chain i = i :: t.chain o := by
  rw [chain, h]
  exact if_pos earlier

def declarations? (t : Forest) (i : Nat) : Option Declarations :=
  match t.scopes[i]? with
  | some (.level d _) => some d
  | _ => none

def frame? (t : Forest) (i : Nat) : Option Frame :=
  match t.scopes[i]? with
  | some (.frame f _) => some f
  | _ => none

def environment (t : Forest) (i : Nat) : Environment := (t.chain i).filterMap t.declarations?

/-- a scope as expressions see it -/
def scope (t : Forest) (i : Nat) : Scope := ⟨(t.chain i).filterMap t.frame?, t.environment i⟩

/-- a change of the declarations of a level -/
def update (t : Forest) (i : Nat) (f : Declarations → Declarations) : Forest :=
  ⟨t.scopes.modify i fun
    | .level d o => .level (f d) o
    | s => s⟩

section
variable {t : Forest} {i j : Nat}

theorem scopes_addLevel_of_lt (h : i < t.size) (outer : Option Nat) :
    (t.addLevel outer).scopes[i]? = t.scopes[i]? :=
  List.getElem?_append_left h

theorem scopes_addLevel_size (t : Forest) (outer : Option Nat) :
    (t.addLevel outer).scopes[t.size]? = some (.level ∅ outer) :=
  List.getElem?_concat_length

theorem outer?_update (t : Forest) (i j : Nat) (f : Declarations → Declarations) :
    (t.update i f).outer? j = t.outer? j := by
  unfold update outer?
  rw [List.getElem?_modify]
  cases t.scopes[j]? with
  | none => rfl
  | some s =>
    by_cases hij : i = j
    · cases s <;> simp [hij]
    · simp [hij]

theorem declarations?_update (t : Forest) (i j : Nat) (f : Declarations → Declarations) :
    (t.update i f).declarations? j =
      if i = j then (t.declarations? j).map f else t.declarations? j := by
  unfold update declarations?
  rw [List.getElem?_modify]
  cases t.scopes[j]? with
  | none => simp
  | some s =>
    by_cases hij : i = j
    · cases s <;> simp [hij]
    · simp [hij]

end

/-- the definition of a variable with the number of the level that has it -/
def resolve? (t : Forest) (i : Nat) (name : String) : Option (Compiled × Nat) :=
  (t.chain i).findSome? fun j =>
    (t.declarations? j).bind fun d => (d.definitions.get? name).map fun c => (c, j)

end Forest

end Rulebook
