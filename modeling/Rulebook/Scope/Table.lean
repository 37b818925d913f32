/-!
# Tables

A table gives a value to each of its names.  Inserting a name again replaces its value.
-/

namespace Rulebook

structure Table (α : Type) where
  entries : List (String × α)

namespace Table

variable {α : Type}

def empty : Table α := ⟨[]⟩

instance : EmptyCollection (Table α) := ⟨empty⟩

instance : Inhabited (Table α) := ⟨empty⟩

def get? (t : Table α) (name : String) : Option α := t.entries.lookup name

def contains (t : Table α) (name : String) : Bool := (t.get? name).isSome

def insert (t : Table α) (name : String) (a : α) : Table α :=
  ⟨(name, a) :: t.entries.filter fun e => e.1 != name⟩

/-- the names in order -/
def names (t : Table α) : List String := (t.entries.map (·.1)).mergeSort

theorem get?_empty (name : String) : (∅ : Table α).get? name = none := rfl

/-- entries of another name do not matter to a lookup -/
theorem lookup_erased (name : String) : ∀ (es : List (String × α)) (other : String),
    other ≠ name → List.lookup other (es.filter (·.1 != name)) = List.lookup other es
  | [], _, _ => rfl
  | (k, a) :: es, other, h => by
    have rest := lookup_erased name es other h
    cases hk : other == k <;> grind

theorem get?_insert (t : Table α) (name other : String) (a : α) :
    (t.insert name a).get? other = if other = name then some a else t.get? other := by
  split
  · simp [get?, insert, *]
  · have := lookup_erased name t.entries other
    grind [get?, insert]

end Table

end Rulebook
