import Rulebook.Scope.Forest

/-!
# Levels of a forest

A level lies within an earlier scope or within none, and keeps its place while scopes are added
and declarations are made.

* `Forest.declared`  what a level declares;
* `Forest.IsLevel`   a level with the scope around it.

`Forest.environment_of_isLevel`: **from a level one sees its own declarations, then what is seen
from the scope around it.**
-/

set_option autoImplicit false

namespace Rulebook

namespace Forest

/-- what a level declares -/
def declared (t : Forest) (i : Nat) : Declarations := (t.declarations? i).getD ∅

/-- a scope that is a level and lies within an earlier scope, or within none -/
structure IsLevel (t : Forest) (i : Nat) (o : Option Nat) : Prop where
  declares : (t.declarations? i).isSome
  outer_eq : t.outer? i = o
  earlier : ∀ j, o = some j → j < i

variable {t : Forest} {i j : Nat} {o : Option Nat}

theorem IsLevel.lt_size (h : t.IsLevel i o) : i < t.size := by
  obtain ⟨d, hd⟩ := Option.isSome_iff_exists.mp h.declares
  unfold declarations? at hd
  split at hd
  next hs => exact (List.getElem?_eq_some_iff.mp hs).1
  · cases hd

/-- a scope lies within one other scope -/
theorem IsLevel.ne {o' : Option Nat} (h : t.IsLevel i o) (h' : t.IsLevel j o') (hne : o ≠ o') :
    i ≠ j := by
  rintro rfl
  exact hne (h.outer_eq.symm.trans h'.outer_eq)

theorem IsLevel.update (h : t.IsLevel i o) (j : Nat) (f : Declarations → Declarations) :
    (t.update j f).IsLevel i o := by
  refine ⟨?_, (outer?_update t j i f).trans h.outer_eq, h.earlier⟩
  rw [declarations?_update]
  split
  · rw [Option.isSome_map]
    exact h.declares
  · exact h.declares

theorem IsLevel.addLevel (h : t.IsLevel i o) (outer : Option Nat) :
    (t.addLevel outer).IsLevel i o := by
  have hscope := scopes_addLevel_of_lt h.lt_size outer
  refine ⟨?_, ?_, h.earlier⟩
  · unfold declarations?
    rw [hscope]
    exact h.declares
  · unfold outer?
    rw [hscope]
    exact h.outer_eq

theorem isLevel_addLevel (ho : ∀ j, o = some j → j < t.size) :
    (t.addLevel o).IsLevel t.size o := by
  have hscope := scopes_addLevel_size t o
  refine ⟨?_, ?_, ho⟩
  · unfold declarations?
    rw [hscope]
    rfl
  · unfold outer?
    rw [hscope]

theorem declared_update (h : (t.declarations? i).isSome) (f : Declarations → Declarations) :
    (t.update i f).declared i = f (t.declared i) := by
  obtain ⟨d, hd⟩ := Option.isSome_iff_exists.mp h
  unfold declared
  rw [declarations?_update, if_pos rfl, hd]
  rfl

theorem declared_update_of_ne (h : i ≠ j) (f : Declarations → Declarations) :
    (t.update i f).declared j = t.declared j := by
  unfold declared
  rw [declarations?_update, if_neg h]

/-- a scope that declares nothing does not change what the others declare -/
theorem declared_concat {s : ForestScope} (hs : ∀ d o, s = .level d o → d = ∅) (i : Nat) :
    (Forest.mk (t.scopes ++ [s])).declared i = t.declared i := by
  unfold declared declarations?
  rcases Nat.lt_trichotomy i t.scopes.length with hlt | rfl | hgt
  · rw [List.getElem?_append_left hlt]
  · rw [List.getElem?_concat_length, List.getElem?_eq_none (Nat.le_refl _)]
    cases s with
    | level d o => exact hs d o rfl
    | frame f o => rfl
  · have hlength : (t.scopes ++ [s]).length ≤ i := by
      rw [List.length_append, List.length_singleton]
      exact hgt
    rw [List.getElem?_eq_none hlength, List.getElem?_eq_none (Nat.le_of_lt hgt)]

theorem declared_addLevel (t : Forest) (outer : Option Nat) (i : Nat) :
    (t.addLevel outer).declared i = t.declared i :=
  declared_concat (fun _ _ h => (ForestScope.level.inj h).1.symm) i

theorem declared_addFrame (t : Forest) (f : Frame) (outer i : Nat) :
    (t.addFrame f outer).declared i = t.declared i :=
  declared_concat (s := .frame f outer) (fun _ _ h => nomatch h) i

theorem declared_addLevel_size (t : Forest) (outer : Option Nat) :
    (t.addLevel outer).declared t.size = ∅ := by
  unfold declared declarations?
  rw [scopes_addLevel_size]
  rfl

/-- what is seen from a scope: its declarations, then what is seen from the one around it -/
theorem environment_of_isLevel (h : t.IsLevel i o) :
    t.environment i = t.declared i :: o.elim [] t.environment := by
  obtain ⟨d, hd⟩ := Option.isSome_iff_exists.mp h.declares
  unfold environment declared
  cases o with
  | none => rw [chain_of_outermost h.outer_eq, List.filterMap_cons_some hd, hd]; rfl
  | some o =>
    rw [chain_of_outer h.outer_eq (h.earlier o rfl), List.filterMap_cons_some hd, hd]
    rfl

end Forest

end Rulebook
