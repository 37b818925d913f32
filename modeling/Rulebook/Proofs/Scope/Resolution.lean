import Rulebook.Proofs.Scope.Levels

/-!
# What names mean after any history

Scopes are made within one another and levels are given declarations, in any order.

* `ScopeCall`          a call that makes a scope, or declares a name in a level;
* `Forest.MadeBy`      a forest and the calls that made it, the last one first;
* `Forest.find?`       what a variable means in a scope, a definition with the number of its level;
* `Nearest`            the nearest scope of a chain that has something;
* `Forest.Means`       what a variable should mean, by the calls alone.

`names_of_madeBy`: **a variable means its value in the nearest frame that binds it, and else its last
definition in the nearest level that has one**, and a definition is seen only where nothing nearer
has its name.
-/

set_option autoImplicit false

namespace Rulebook

/-! ## calls -/

/-- calls about scopes by their numbers -/
inductive ScopeCall where
  /-- a level within a scope, or within none -/
  | level (outer : Option Nat)
  | frame (f : Frame) (outer : Nat)
  | define (i : Nat) (name : String) (e : Compiled)
  | defineFunction (i : Nat) (f : FunctionDecl)

namespace ScopeCall

/-- the definition that a call gives to a variable of a level -/
def definition? (i : Nat) (name : String) : ScopeCall → Option Compiled
  | define j n e => if j = i ∧ n = name then some e else none
  | _ => none

/-- the function that a call declares in a level -/
def function? (i : Nat) (name : String) : ScopeCall → Option FunctionDecl
  | defineFunction j f => if j = i ∧ f.name = name then some f else none
  | _ => none

end ScopeCall

/-- the last definition of a variable in a level, the last call being the first of the list -/
def lastDefinition? (calls : List ScopeCall) (i : Nat) (name : String) : Option Compiled :=
  calls.findSome? (·.definition? i name)

/-- the last function of a name in a level -/
def lastFunction? (calls : List ScopeCall) (i : Nat) (name : String) : Option FunctionDecl :=
  calls.findSome? (·.function? i name)

section
variable (calls : List ScopeCall) (i j : Nat) (name n : String)

theorem lastDefinition?_define (e : Compiled) :
    lastDefinition? (.define j n e :: calls) i name =
      if j = i ∧ n = name then some e else lastDefinition? calls i name := by
  unfold lastDefinition?
  rw [List.findSome?_cons, ScopeCall.definition?]
  by_cases h : j = i ∧ n = name
  · rw [if_pos h, if_pos h]
  · rw [if_neg h, if_neg h]

theorem lastFunction?_defineFunction (f : FunctionDecl) :
    lastFunction? (.defineFunction j f :: calls) i name =
      if j = i ∧ f.name = name then some f else lastFunction? calls i name := by
  unfold lastFunction?
  rw [List.findSome?_cons, ScopeCall.function?]
  by_cases h : j = i ∧ f.name = name
  · rw [if_pos h, if_pos h]
  · rw [if_neg h, if_neg h]

end

/-- the nearest scope of a chain that has something, and what it has -/
def Nearest {α : Type} (has : Nat → Option α) (chain : List Nat) (i : Nat) (a : α) : Prop :=
  ∃ nearer further, chain = nearer ++ i :: further ∧ has i = some a ∧ ∀ j ∈ nearer, has j = none

/-- a scope of a chain, and no nearer one has something -/
def Exposed {α : Type} (has : Nat → Option α) (chain : List Nat) (i : Nat) : Prop :=
  ∃ nearer further, chain = nearer ++ i :: further ∧ ∀ j ∈ nearer, has j = none

namespace Forest

/-- the forest after a call -/
def call (t : Forest) : ScopeCall → Forest
  | .level outer => t.addLevel outer
  | .frame f outer => t.addFrame f outer
  | .define i name e => t.update i (·.define name e)
  | .defineFunction i f => t.update i (·.defineFunction f)

/-- the scopes that a call is about are there, and are levels if names are declared in them -/
def Admits (t : Forest) : ScopeCall → Prop
  | .level outer => ∀ o, outer = some o → o < t.size
  | .frame _ outer => outer < t.size
  | .define i _ _ | .defineFunction i _ => (t.declarations? i).isSome

/-- a forest and the calls that made it, the last one first -/
inductive MadeBy : List ScopeCall → Forest → Prop
  | nothing : MadeBy [] empty
  | call {calls : List ScopeCall} {t : Forest} (h : MadeBy calls t) {c : ScopeCall}
    (hc : t.Admits c) : MadeBy (c :: calls) (t.call c)

/-! ## what a variable means -/

/-- what a variable means, a definition with the number of the level that has it -/
inductive Found where
  | value (v : Value)
  | definition (e : Compiled) (level : Nat)

def Found.meaning (t : Forest) : Found → Meaning
  | value v => .value v
  | definition e i => .definition e (t.environment i)

/-- the value of a variable in one frame -/
def bound? (t : Forest) (name : String) (i : Nat) : Option Value :=
  (t.frame? i).bind fun f => f.bindings.get? name

def find? (t : Forest) (i : Nat) (name : String) : Option Found :=
  match (t.scope i).value? name with
  | some v => some (.value v)
  | none => (t.resolve? i name).map fun x => .definition x.1 x.2

/-- what a variable should mean in a scope of a forest that was made by some calls -/
inductive Means (calls : List ScopeCall) (t : Forest) (i : Nat) (name : String) :
    Option Found → Prop
  | value {j : Nat} {v : Value} (h : Nearest (t.bound? name) (t.chain i) j v) :
    Means calls t i name (some (.value v))
  | definition {k : Nat} {e : Compiled} (hframes : ∀ j ∈ t.chain i, t.bound? name j = none)
    (h : Nearest (lastDefinition? calls · name) (t.chain i) k e) :
    Means calls t i name (some (.definition e k))
  | nothing (hframes : ∀ j ∈ t.chain i, t.bound? name j = none)
    (hlevels : ∀ j ∈ t.chain i, lastDefinition? calls j name = none) : Means calls t i name none

end Forest

theorem findSome?_filterMap {α β γ : Type} (f : α → Option β) (g : β → Option γ) (l : List α) :
    (l.filterMap f).findSome? g = l.findSome? fun a => (f a).bind g := by
  induction l with
  | nil => rfl
  | cons a l ih =>
    rw [List.filterMap_cons, List.findSome?_cons]
    cases f a with
    | none => exact ih
    | some b => rw [List.findSome?_cons, ih]; rfl

/-- a search along a chain finds what the nearest scope has -/
theorem findSome?_eq_some_iff_nearest {α : Type} {has : Nat → Option α} {chain : List Nat} {a : α} :
    chain.findSome? has = some a ↔ ∃ i, Nearest has chain i a := by
  rw [List.findSome?_eq_some_iff]
  exact exists_comm

theorem nearest_of_findSome?_map {α : Type} {has : Nat → Option α} {chain : List Nat} {x : α × Nat}
    (h : (chain.findSome? fun j => (has j).map fun a => (a, j)) = some x) :
    Nearest has chain x.2 x.1 := by
  obtain ⟨i, nearer, further, hchain, hi, hnearer⟩ := findSome?_eq_some_iff_nearest.mp h
  obtain ⟨a, ha, rfl⟩ := Option.map_eq_some_iff.mp hi
  exact ⟨nearer, further, hchain, ha, fun j hj => Option.map_eq_none_iff.mp (hnearer j hj)⟩

theorem findSome?_map_of_nearest {α : Type} {has : Nat → Option α} {chain : List Nat} {i : Nat}
    {a : α} (h : Nearest has chain i a) :
    (chain.findSome? fun j => (has j).map fun a => (a, j)) = some (a, i) := by
  obtain ⟨nearer, further, hchain, hi, hnearer⟩ := h
  exact findSome?_eq_some_iff_nearest.mpr ⟨i, nearer, further, hchain,
    Option.map_eq_some_iff.mpr ⟨a, hi, rfl⟩, fun j hj => Option.map_eq_none_iff.mpr (hnearer j hj)⟩

/-- two searches that differ at one scope only find the same, unless that scope is reached -/
theorem exposed_of_findSome?_ne {α : Type} {has has' : Nat → Option α} {i : Nat}
    (hsame : ∀ j, j ≠ i → has' j = has j) {chain : List Nat}
    (hne : chain.findSome? has' ≠ chain.findSome? has) : Exposed has chain i := by
  induction chain with
  | nil => exact absurd rfl hne
  | cons j chain ih =>
    by_cases hj : j = i
    · exact ⟨[], chain, by rw [hj, List.nil_append], fun _ h => absurd h List.not_mem_nil⟩
    · rw [List.findSome?_cons, List.findSome?_cons, hsame j hj] at hne
      cases hhas : has j with
      | some a =>
        rw [hhas] at hne
        exact absurd rfl hne
      | none =>
        rw [hhas] at hne
        obtain ⟨nearer, further, hchain, hnone⟩ := ih hne
        exact ⟨j :: nearer, further, by rw [hchain, List.cons_append],
          List.forall_mem_cons.mpr ⟨hhas, hnone⟩⟩

namespace Forest

variable {calls : List ScopeCall} {t : Forest} {i j : Nat} {name : String}

/-! ## what calls keep -/

/-- every scope lies within an earlier one, or within none -/
def Ordered (t : Forest) : Prop := ∀ i o, t.outer? i = some o → o < i

theorem outer?_concat {s : ForestScope} {o : Nat}
    (ho : (Forest.mk (t.scopes ++ [s])).outer? i = some o) :
    t.outer? i = some o ∨ i = t.size ∧ (Forest.mk [s]).outer? 0 = some o := by
  unfold outer? at ho ⊢
  rcases Nat.lt_trichotomy i t.scopes.length with hlt | rfl | hgt
  · rw [List.getElem?_append_left hlt] at ho
    exact .inl ho
  · rw [List.getElem?_concat_length] at ho
    exact .inr ⟨rfl, ho⟩
  · have hlength : (t.scopes ++ [s]).length ≤ i := by
      rw [List.length_append, List.length_singleton]
      exact hgt
    rw [List.getElem?_eq_none hlength] at ho
    cases ho

theorem MadeBy.ordered (h : MadeBy calls t) : t.Ordered := by
  intro i o ho
  induction h with
  | nothing => cases ho
  | @call calls t h c hc ih =>
    cases c with
    | level outer =>
      rcases outer?_concat ho with ho | ⟨rfl, rfl⟩
      · exact ih ho
      · exact hc o rfl
    | frame f outer =>
      rcases outer?_concat ho with ho | ⟨rfl, hlast⟩
      · exact ih ho
      · cases hlast
        exact hc
    | define | defineFunction => exact ih ((outer?_update ..).symm.trans ho)

/-- **A level declares what it was last given.** -/
theorem MadeBy.declared_eq (h : MadeBy calls t) (i : Nat) (name : String) :
    (t.declared i).definitions.get? name = lastDefinition? calls i name ∧
      (t.declared i).functions.get? name = lastFunction? calls i name := by
  induction h with
  | nothing => exact ⟨rfl, rfl⟩
  | @call calls t h c hc ih =>
    cases c with
    | level outer =>
      rw [Forest.call, declared_addLevel]
      exact ih
    | frame f outer =>
      rw [Forest.call, declared_addFrame]
      exact ih
    | define j n e =>
      rw [lastDefinition?_define, Forest.call]
      by_cases hj : j = i
      · subst hj
        rw [declared_update hc, Declarations.define, Table.get?_insert, ih.1]
        exact ⟨by simp [eq_comm], ih.2⟩
      · rw [declared_update_of_ne hj, if_neg (not_and_of_not_left _ hj)]
        exact ih
    | defineFunction j f =>
      rw [lastFunction?_defineFunction, Forest.call]
      by_cases hj : j = i
      · subst hj
        rw [declared_update hc, Declarations.defineFunction, Table.get?_insert, ih.2]
        exact ⟨ih.1, by simp [eq_comm]⟩
      · rw [declared_update_of_ne hj, if_neg (not_and_of_not_left _ hj)]
        exact ih

/-! ## chains -/

/-- what holds of a scope if it does of the one around it holds of all -/
theorem Ordered.induction (h : t.Ordered) {P : Nat → Prop}
    (outermost : ∀ i, t.outer? i = none → P i)
    (inner : ∀ i o, t.outer? i = some o → P o → P i) (i : Nat) : P i := by
  induction i using Nat.strongRecOn with
  | ind i ih =>
    cases ho : t.outer? i with
    | none => exact outermost i ho
    | some o => exact inner i o ho (ih o (h i o ho))

theorem Ordered.chain_update (h : t.Ordered) (j : Nat) (f : Declarations → Declarations) (i : Nat) :
    (t.update j f).chain i = t.chain i := by
  induction i using h.induction with
  | outermost i ho =>
    rw [chain_of_outermost ho, chain_of_outermost ((outer?_update ..).trans ho)]
  | inner i o ho ih =>
    have hlt := h i o ho
    rw [chain_of_outer ho hlt, chain_of_outer ((outer?_update ..).trans ho) hlt, ih]

theorem frame?_update (t : Forest) (j : Nat) (f : Declarations → Declarations) (i : Nat) :
    (t.update j f).frame? i = t.frame? i := by
  unfold update frame?
  rw [List.getElem?_modify]
  cases t.scopes[i]? with
  | none => rfl
  | some s =>
    by_cases hji : j = i
    · cases s <;> simp [hji]
    · simp [hji]

/-- what is asked of a level, where nothing is declared there is nothing to be found -/
theorem bind_declarations? {α : Type} (t : Forest) (j : Nat) {g : Declarations → Option α}
    (hg : g ∅ = none) : (t.declarations? j).bind g = g (t.declared j) := by
  unfold declared
  cases t.declarations? j with
  | none => exact hg.symm
  | some d => rfl

theorem value?_scope (t : Forest) (i : Nat) (name : String) :
    (t.scope i).value? name = (t.chain i).findSome? (t.bound? name) :=
  findSome?_filterMap t.frame? _ _

theorem MadeBy.resolve?_eq (h : MadeBy calls t) (i : Nat) (name : String) :
    t.resolve? i name =
      (t.chain i).findSome? fun j => (lastDefinition? calls j name).map fun e => (e, j) := by
  unfold resolve?
  congr 1
  funext j
  rw [← (h.declared_eq j name).1]
  exact t.bind_declarations? j (g := fun d => (d.definitions.get? name).map fun e => (e, j)) rfl

theorem MadeBy.function?_eq (h : MadeBy calls t) (i : Nat) (name : String) :
    (t.scope i).function? name = (t.chain i).findSome? (lastFunction? calls · name) := by
  show ((t.chain i).filterMap t.declarations?).findSome? (·.functions.get? name) = _
  rw [findSome?_filterMap]
  congr 1
  funext j
  rw [← (h.declared_eq j name).2]
  exact t.bind_declarations? j (g := fun d => d.functions.get? name) rfl

/-- a definition is found in a scope, or where it is found from the scopes above -/
theorem definition?_environment_of_chain {above : List Nat} (hchain : t.chain i = i :: above)
    (habove : Environment.definition? name (above.filterMap t.declarations?) =
      (above.findSome? fun j => (t.declarations? j).bind fun d =>
        (d.definitions.get? name).map fun e => (e, j)).map fun x => (x.1, t.environment x.2)) :
    (t.environment i).definition? name =
      (t.resolve? i name).map fun x => (x.1, t.environment x.2) := by
  have hresolve : t.resolve? i name = (i :: above).findSome? _ := congrArg (List.findSome? _) hchain
  rw [hresolve, List.findSome?_cons]
  cases hd : t.declarations? i with
  | none =>
    have henv : t.environment i = above.filterMap t.declarations? := by
      rw [environment, hchain, List.filterMap_cons_none hd]
    rw [henv]
    exact habove
  | some d =>
    have henv : t.environment i = d :: above.filterMap t.declarations? := by
      rw [environment, hchain, List.filterMap_cons_some hd]
    rw [Option.bind_some]
    cases hget : d.definitions.get? name with
    | none =>
      rw [henv, Environment.definition?, hget]
      exact habove
    | some e =>
      rw [Option.map_some, Option.map_some, henv, Environment.definition?, hget]

/-- a definition comes with what is seen from its level -/
theorem Ordered.definition?_environment (h : t.Ordered) (i : Nat) (name : String) :
    (t.environment i).definition? name =
      (t.resolve? i name).map fun x => (x.1, t.environment x.2) := by
  induction i using h.induction with
  | outermost i ho => exact definition?_environment_of_chain (chain_of_outermost ho) rfl
  | inner i o ho ih => exact definition?_environment_of_chain (chain_of_outer ho (h i o ho)) ih

theorem Ordered.lookup_scope (h : t.Ordered) (i : Nat) (name : String) :
    (t.scope i).lookup name = (t.find? i name).map (Found.meaning t) := by
  unfold Scope.lookup find?
  cases (t.scope i).value? name with
  | some v => rfl
  | none =>
    show ((t.environment i).definition? name).map _ = _
    rw [h.definition?_environment, Option.map_map, Option.map_map]
    rfl

/-! ## what names mean -/

theorem find?_of_value {v : Value} (h : (t.scope i).value? name = some v) :
    t.find? i name = some (.value v) := by
  unfold find?
  rw [h]

theorem find?_of_none (h : (t.scope i).value? name = none) :
    t.find? i name = (t.resolve? i name).map fun x => .definition x.1 x.2 := by
  unfold find?
  rw [h]

/-- **A variable means what it should mean by the calls.** -/
theorem MadeBy.find?_eq_iff (h : MadeBy calls t) {a : Option Found} :
    t.find? i name = a ↔ t.Means calls i name a := by
  constructor
  · rintro rfl
    cases hvalue : (t.scope i).value? name with
    | some v =>
      rw [value?_scope] at hvalue
      obtain ⟨j, hj⟩ := findSome?_eq_some_iff_nearest.mp hvalue
      rw [find?_of_value ((value?_scope ..).trans hvalue)]
      exact .value hj
    | none =>
      rw [find?_of_none hvalue, h.resolve?_eq]
      rw [value?_scope, List.findSome?_eq_none_iff] at hvalue
      cases hfound : (t.chain i).findSome? fun j => (lastDefinition? calls j name).map fun e => (e, j) with
      | none =>
        rw [List.findSome?_eq_none_iff] at hfound
        exact .nothing hvalue fun j hj => Option.map_eq_none_iff.mp (hfound j hj)
      | some x =>
        exact .definition hvalue (nearest_of_findSome?_map hfound)
  · intro hmeans
    cases hmeans with
    | value hnear =>
      exact find?_of_value ((value?_scope ..).trans (findSome?_eq_some_iff_nearest.mpr ⟨_, hnear⟩))
    | definition hframes hnear =>
      have hnone := (value?_scope t i name).trans (List.findSome?_eq_none_iff.mpr hframes)
      rw [find?_of_none hnone, h.resolve?_eq, findSome?_map_of_nearest hnear]
      rfl
    | nothing hframes hlevels =>
      have hnone := (value?_scope t i name).trans (List.findSome?_eq_none_iff.mpr hframes)
      have hnothing : (t.chain i).findSome? (fun j => (lastDefinition? calls j name).map fun e => (e, j)) =
          none :=
        List.findSome?_eq_none_iff.mpr fun j hj => Option.map_eq_none_iff.mpr (hlevels j hj)
      rw [find?_of_none hnone, h.resolve?_eq, hnothing]
      rfl

/-! ## what a declaration changes -/

section
variable (h : MadeBy calls t) {k : Nat} {name' : String}
include h

theorem MadeBy.value?_update (f : Declarations → Declarations) (i : Nat) (name : String) :
    ((t.update k f).scope i).value? name = (t.scope i).value? name := by
  have hbound : (t.update k f).bound? name = t.bound? name :=
    funext fun j => congrArg (Option.bind · _) (frame?_update t k f j)
  rw [value?_scope, value?_scope, h.ordered.chain_update, hbound]

/-- **A definition changes what its name means, where nothing nearer has the name.** -/
theorem MadeBy.exposed_of_define {e : Compiled} (hk : t.Admits (.define k name' e))
    (hne : (t.call (.define k name' e)).find? i name ≠ t.find? i name) :
    name = name' ∧ (∀ j ∈ t.chain i, t.bound? name' j = none) ∧
      Exposed (lastDefinition? calls · name') (t.chain i) k := by
  have hafter := h.call hk
  have hvalue : ((t.call (.define k name' e)).scope i).value? name = (t.scope i).value? name :=
    h.value?_update _ i name
  have hchain : (t.call (.define k name' e)).chain i = t.chain i := h.ordered.chain_update k _ i
  cases hbound : (t.scope i).value? name with
  | some v => exact absurd ((find?_of_value (hvalue.trans hbound)).trans (find?_of_value hbound).symm) hne
  | none =>
    have hsearch : (t.chain i).findSome? (fun j =>
        (lastDefinition? (.define k name' e :: calls) j name).map fun e => (e, j)) ≠
        (t.chain i).findSome? fun j => (lastDefinition? calls j name).map fun e => (e, j) := by
      intro hsame
      rw [find?_of_none (hvalue.trans hbound), find?_of_none hbound, hafter.resolve?_eq,
        h.resolve?_eq, hchain, hsame] at hne
      exact hne rfl
    have hname : name = name' := by
      refine Decidable.byContradiction fun hother => hsearch ?_
      refine congrArg (List.findSome? · _) (funext fun j => ?_)
      rw [lastDefinition?_define, if_neg fun hboth => hother hboth.2.symm]
    subst hname
    obtain ⟨nearer, further, hsplit, hnearer⟩ := exposed_of_findSome?_ne (fun j hj => by
      rw [lastDefinition?_define, if_neg fun hboth => hj hboth.1.symm]) hsearch
    rw [value?_scope, List.findSome?_eq_none_iff] at hbound
    exact ⟨rfl, hbound, nearer, further, hsplit,
      fun j hj => Option.map_eq_none_iff.mp (hnearer j hj)⟩

theorem MadeBy.function?_define {e : Compiled} (hk : t.Admits (.define k name' e)) :
    ((t.call (.define k name' e)).scope i).function? name = (t.scope i).function? name := by
  have hchain : (t.call (.define k name' e)).chain i = t.chain i := h.ordered.chain_update k _ i
  rw [(h.call hk).function?_eq, h.function?_eq, hchain]
  rfl

/-- a function is declared like a variable is defined -/
theorem MadeBy.exposed_of_defineFunction {f : FunctionDecl} (hk : t.Admits (.defineFunction k f))
    (hne : ((t.call (.defineFunction k f)).scope i).function? name ≠ (t.scope i).function? name) :
    name = f.name ∧ Exposed (lastFunction? calls · f.name) (t.chain i) k := by
  have hchain : (t.call (.defineFunction k f)).chain i = t.chain i := h.ordered.chain_update k _ i
  rw [(h.call hk).function?_eq, h.function?_eq, hchain] at hne
  have hname : name = f.name := by
    refine Decidable.byContradiction fun hother => hne ?_
    refine congrArg (List.findSome? · _) (funext fun j => ?_)
    rw [lastFunction?_defineFunction, if_neg fun hboth => hother hboth.2.symm]
  subst hname
  refine ⟨rfl, exposed_of_findSome?_ne (fun j hj => ?_) hne⟩
  rw [lastFunction?_defineFunction, if_neg fun hboth => hj hboth.1.symm]

theorem MadeBy.find?_defineFunction {f : FunctionDecl} (hk : t.Admits (.defineFunction k f)) :
    (t.call (.defineFunction k f)).find? i name = t.find? i name := by
  have hvalue : ((t.call (.defineFunction k f)).scope i).value? name = (t.scope i).value? name :=
    h.value?_update _ i name
  have hchain : (t.call (.defineFunction k f)).chain i = t.chain i := h.ordered.chain_update k _ i
  have hresolve : (t.call (.defineFunction k f)).resolve? i name = t.resolve? i name := by
    rw [(h.call hk).resolve?_eq, h.resolve?_eq, hchain]
    rfl
  unfold find?
  rw [hvalue, hresolve]

end

theorem Ordered.chain_eq (h : t.Ordered) (i : Nat) :
    t.chain i = i :: (t.outer? i).elim [] t.chain := by
  cases ho : t.outer? i with
  | none => exact chain_of_outermost ho
  | some o => exact chain_of_outer ho (h i o ho)

end Forest

open Forest in
/-- **What names mean, whatever was called before.**  A variable means what the calls say, and comes
with what is seen from its level; a function is the last one of its name in the nearest level that
has one.  A definition changes what its own name means and no function, a function what its name
calls and no variable, and only where the level is in the chain and nothing nearer has the name. -/
theorem names_of_madeBy {calls : List ScopeCall} {t : Forest} (h : MadeBy calls t) :
    (∀ i, t.chain i = i :: (t.outer? i).elim [] t.chain) ∧
    (∀ i name a, t.find? i name = a ↔ t.Means calls i name a) ∧
    (∀ i name, (t.scope i).lookup name = (t.find? i name).map (Found.meaning t)) ∧
    (∀ i name, (∀ f, (t.scope i).function? name = some f ↔
        ∃ k, Nearest (lastFunction? calls · name) (t.chain i) k f) ∧
      ((t.scope i).function? name = none ↔
        ∀ k ∈ t.chain i, lastFunction? calls k name = none)) ∧
    (∀ k name e, t.Admits (.define k name e) → ∀ i other,
      ((t.call (.define k name e)).find? i other ≠ t.find? i other → other = name ∧
        (∀ j ∈ t.chain i, t.bound? name j = none) ∧
          Exposed (lastDefinition? calls · name) (t.chain i) k) ∧
      ((t.call (.define k name e)).scope i).function? other = (t.scope i).function? other) ∧
    ∀ k f, t.Admits (.defineFunction k f) → ∀ i other,
      (((t.call (.defineFunction k f)).scope i).function? other ≠ (t.scope i).function? other →
        other = f.name ∧ Exposed (lastFunction? calls · f.name) (t.chain i) k) ∧
      (t.call (.defineFunction k f)).find? i other = t.find? i other := by
  refine ⟨h.ordered.chain_eq, fun i name a => h.find?_eq_iff, h.ordered.lookup_scope,
    fun i name => ⟨fun f => ?_, ?_⟩,
    fun k name e hk i other => ⟨h.exposed_of_define hk, h.function?_define hk⟩,
    fun k f hk i other => ⟨h.exposed_of_defineFunction hk, h.find?_defineFunction hk⟩⟩
  · rw [h.function?_eq, findSome?_eq_some_iff_nearest]
  · rw [h.function?_eq, List.findSome?_eq_none_iff]

/-- `x` defined in a level and again in one within it, a frame there that binds `y`, and `late`
defined in the outer level when all is made, from the last call back -/
def shadowingCalls : List ScopeCall :=
  [.define 0 "late" ⟨"3", .xpath1, .full, .number 3⟩, .frame ((Frame.new "f").bind "y" []) 1,
    .define 1 "x" ⟨"2", .xpath1, .full, .number 2⟩, .level (some 0),
    .define 0 "x" ⟨"1", .xpath1, .full, .number 1⟩, .level none]

def shadowingForest : Forest := shadowingCalls.foldr (fun c t => t.call c) .empty

theorem madeBy_shadowingCalls : Forest.MadeBy shadowingCalls shadowingForest := by
  refine .call (.call (.call (.call (.call (.call .nothing ?_) ?_) ?_) ?_) ?_) ?_
  · exact nofun
  · exact rfl
  · rintro o ⟨⟩
    exact Nat.zero_lt_one
  · exact rfl
  · exact Nat.lt_succ_self 1
  · exact rfl

/-- the inner definition of `x` and the late one are seen from the frame, and a definition of `y`
would not be -/
theorem names_of_madeBy_shadowing : Forest.MadeBy shadowingCalls shadowingForest ∧
    shadowingForest.find? 2 "x" = some (.definition ⟨"2", .xpath1, .full, .number 2⟩ 1) ∧
    shadowingForest.find? 2 "late" = some (.definition ⟨"3", .xpath1, .full, .number 3⟩ 0) ∧
    (shadowingForest.scope 2).lookup "y" = some (.value []) ∧
    ∀ e, (shadowingForest.call (.define 1 "y" e)).find? 2 "y" = shadowingForest.find? 2 "y" := by
  obtain ⟨hchain, hfind, hlookup, -, hdefine, -⟩ := names_of_madeBy madeBy_shadowingCalls
  have hchain₀ : shadowingForest.chain 0 = [0] := hchain 0
  have hchain₁ : shadowingForest.chain 1 = [1, 0] := (hchain 1).trans (congrArg (1 :: ·) hchain₀)
  have hchain₂ : shadowingForest.chain 2 = [2, 1, 0] := (hchain 2).trans (congrArg (2 :: ·) hchain₁)
  have hframes {name : String} (h : shadowingForest.bound? name 2 = none) :
      ∀ j ∈ shadowingForest.chain 2, shadowingForest.bound? name j = none := by
    rw [hchain₂]
    exact List.forall_mem_cons.mpr ⟨h, List.forall_mem_cons.mpr ⟨rfl, List.forall_mem_singleton.mpr rfl⟩⟩
  refine ⟨madeBy_shadowingCalls,
    (hfind 2 "x" _).mpr (.definition (hframes rfl) ⟨[2], [0], hchain₂, rfl, ?_⟩),
    (hfind 2 "late" _).mpr (.definition (hframes rfl) ⟨[2, 1], [], hchain₂, rfl, ?_⟩), ?_, fun e => ?_⟩
  · exact List.forall_mem_singleton.mpr rfl
  · exact List.forall_mem_cons.mpr ⟨rfl, List.forall_mem_singleton.mpr rfl⟩
  · rw [hlookup, (hfind 2 "y" _).mpr (.value ⟨[], [1, 0], hchain₂, rfl, nofun⟩)]
    rfl
  · refine Classical.byContradiction fun hne => ?_
    obtain ⟨-, hunbound, -⟩ := (hdefine 1 "y" e rfl 2 "y").1 hne
    exact absurd (hunbound 2 (hchain₂ ▸ List.mem_cons_self)) nofun

end Rulebook
