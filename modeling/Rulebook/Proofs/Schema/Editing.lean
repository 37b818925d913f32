import Rulebook.Schema.Basic

/-!
# Building a schema

A schema is built by edits: of itself, of its patterns, of their rules, of their assertions.

* `Edit`                one edit, with the numbers of the parts that it is about;
* `Schema.edit`         what it makes of a schema, or why it fails;
* `Schema.IdStep`       all that an edit can do to the ids of patterns and to phases;
* `Schema.Consistent`   ids are unique, and phases list patterns that exist;
* `Schema.Built`        the schemas that some edits make of a new one.

`Schema.Built.consistent`: **whatever the edits are, the schema behind them is consistent.**
-/

set_option autoImplicit false

namespace Rulebook

/-! ## edits -/

/-- a schema, or one of its patterns or rules, by their numbers -/
inductive Place where
  | schema
  | pattern (i : Nat)
  | rule (i j : Nat)

/-- only rules have a context that their variables may depend on -/
def Place.dialect : Place → Dialect
  | schema => .literal
  | pattern _ => .literal
  | rule _ _ => .full

inductive Edit where
  | define (place : Place) (name value : String)
  | defineFunction (place : Place) (f : FunctionDecl)
  | addNamespace (name uri : String)
  | addPattern (id : String)
  | addPhase (id : String) (active : List String)
  | setTitle (i : Nat) (title : String)
  | addRule (i : Nat) (context : String)
  | setId (i j : Nat) (id : String)
  | addAssertion (i j : Nat) (id : String) (kind : AssertionKind) (severity : Severity)
    (test : String) (message : Template)
  | setFlag (i j k : Nat) (flag : String)
  | setRole (i j k : Nat) (role : String)

def Assertion.setFlag (a : Assertion) (flag : String) : Assertion := { a with flag := some flag }

def Assertion.setRole (a : Assertion) (role : String) : Assertion := { a with role := some role }

/-- a change of one assertion; without such an assertion nothing changes -/
def Rule.updateAssertion (r : Rule) (k : Nat) (f : Assertion → Assertion) : Rule :=
  { r with assertions := r.assertions.modify k f }

/-- a change of one element that can fail; without such an element nothing changes -/
def tryModify {α : Type} (l : List α) (i : Nat) (f : α → Except ValidationError α) :
    Except ValidationError (List α) :=
  match l[i]? with
  | some a => (f a).map (l.set i)
  | none => .ok l

/-- a change of one rule that can fail -/
def Pattern.tryRule (p : Pattern) (j : Nat) (f : Rule → Except ValidationError Rule) :
    Except ValidationError Pattern :=
  (tryModify p.rules j f).map fun rules => { p with rules }

namespace Schema

/-- a change of one pattern that can fail -/
def tryPattern (s : Schema) (i : Nat) (f : Pattern → Except ValidationError Pattern) :
    Except ValidationError Schema :=
  (tryModify s.patterns i f).map fun patterns => { s with patterns }

/-- a change of one rule; without such a rule nothing changes -/
def updateRule (s : Schema) (i j : Nat) (f : Rule → Rule) : Schema :=
  s.updatePattern i (·.updateRule j f)

def edit (s : Schema) : Edit → Except ValidationError Schema
  | .define .schema name value => s.define name value
  | .define (.pattern i) name value => s.tryPattern i (·.define s.binding name value)
  | .define (.rule i j) name value =>
    s.tryPattern i fun p => p.tryRule j (·.define s.binding name value)
  | .defineFunction .schema f => .ok (s.defineFunction f)
  | .defineFunction (.pattern i) f => .ok (s.updatePattern i (·.defineFunction f))
  | .defineFunction (.rule i j) f => .ok (s.updateRule i j (·.defineFunction f))
  | .addNamespace name uri => .ok (s.addNamespace name uri)
  | .addPattern id => s.addPattern id
  | .addPhase id active => s.addPhase id active
  | .setTitle i title => .ok (s.updatePattern i (·.setTitle title))
  | .addRule i context => .ok (s.updatePattern i (·.addRule (.new context)))
  | .setId i j id => .ok (s.updateRule i j (·.setId id))
  | .addAssertion i j id kind severity test message =>
    .ok (s.updateRule i j (·.addAssertion (.new id kind severity test message)))
  | .setFlag i j k flag => .ok (s.updateRule i j (·.updateAssertion k (·.setFlag flag)))
  | .setRole i j k role => .ok (s.updateRule i j (·.updateAssertion k (·.setRole role)))

/-- the schema behind an edit; one that fails changes nothing -/
def apply (s : Schema) (e : Edit) : Schema := (s.edit e).toOption.getD s

/-- the schema behind some edits -/
def build (s : Schema) (es : List Edit) : Schema := es.foldl apply s

/-- a schema that some edits make of a new one -/
def Built (s : Schema) : Prop :=
  ∃ title tag s₀ es, new title tag = .ok s₀ ∧ s = s₀.build es

end Schema

/-! ## lists with one element changed -/

section
variable {α β : Type}

/-- a change of an element is a change of its image -/
theorem map_modify {f : α → β} {g : α → α} {k : β → β} (h : ∀ a, f (g a) = k (f a))
    (l : List α) (i : Nat) : (l.modify i g).map f = (l.map f).modify i k := by
  apply List.ext_getElem?
  intro j
  rw [List.getElem?_map, List.getElem?_modify, List.getElem?_modify, List.getElem?_map]
  cases l[j]? with
  | none => rfl
  | some a =>
    by_cases hij : i = j
    · simp [hij, h]
    · simp [hij]

/-- two readings of a list that differ in one element -/
theorem map_eq_modify {f k : α → β} {g : β → β} {l : List α} {i : Nat}
    (hi : ∀ a, l[i]? = some a → k a = g (f a))
    (hne : ∀ j a, j ≠ i → l[j]? = some a → k a = f a) : l.map k = (l.map f).modify i g := by
  apply List.ext_getElem?
  intro j
  rw [List.getElem?_map, List.getElem?_modify, List.getElem?_map]
  cases ha : l[j]? with
  | none => rfl
  | some a =>
    by_cases hij : i = j
    · subst hij
      simp [hi a ha]
    · simp [hij, hne j a (Ne.symm hij) ha]

theorem ne_of_nodup_map {f : α → β} {l : List α} {i j : Nat} {a b : α} (h : (l.map f).Nodup)
    (ha : l[i]? = some a) (hb : l[j]? = some b) (hij : i ≠ j) : f a ≠ f b := by
  intro heq
  have hi : i < (l.map f).length := by
    rw [List.length_map]
    exact (List.getElem?_eq_some_iff.mp ha).1
  refine hij ((List.getElem?_inj hi h).mp ?_)
  rw [List.getElem?_map, List.getElem?_map, ha, hb, Option.map_some, Option.map_some, heq]

/-- where keys are unique, an element is found by its key -/
theorem find?_of_nodup_map [BEq β] [LawfulBEq β] {f : α → β} {l : List α} (h : (l.map f).Nodup)
    {a : α} (ha : a ∈ l) : (l.find? fun b => f b == f a) = some a := by
  induction l with
  | nil => cases ha
  | cons b l ih =>
    obtain ⟨hb, htail⟩ := List.nodup_cons.mp h
    rcases List.mem_cons.mp ha with rfl | ha
    · exact List.find?_cons_of_pos (beq_self_eq_true _)
    · have hne : f b ≠ f a := fun heq => hb (heq ▸ List.mem_map_of_mem ha)
      rw [List.find?_cons_of_neg (by simp [hne])]
      exact ih htail ha

theorem nodup_concat {l : List α} {a : α} (h : l.Nodup) (ha : a ∉ l) : (l ++ [a]).Nodup := by
  refine List.nodup_append.mpr ⟨h, List.nodup_cons.mpr ⟨List.not_mem_nil, List.nodup_nil⟩, ?_⟩
  rintro b hb _ ha' rfl
  exact ha (List.mem_singleton.mp ha' ▸ hb)

theorem modify_of_same {f : α → α} {l : List α} {i : Nat} (h : ∀ a, l[i]? = some a → f a = a) :
    l.modify i f = l := by
  have heq := map_eq_modify (f := id) (k := id) (g := f) (l := l) (i := i)
    (fun a ha => (h a ha).symm) fun _ _ _ _ => rfl
  rw [List.map_id] at heq
  exact heq.symm

theorem forall_mem_modify {P : α → Prop} {f : α → α} {l : List α} {i : Nat}
    (h : ∀ a ∈ l, P a) (hi : ∀ a, l[i]? = some a → P (f a)) : ∀ a ∈ l.modify i f, P a := by
  intro a ha
  obtain ⟨j, hj⟩ := List.mem_iff_getElem?.mp ha
  rw [List.getElem?_modify] at hj
  obtain ⟨b, hb, rfl⟩ := Option.map_eq_some_iff.mp hj
  by_cases hij : i = j
  · rw [if_pos hij]
    exact hi b (hij ▸ hb)
  · rw [if_neg hij]
    exact h b (List.mem_of_getElem? hb)

theorem exceptMap_map {γ : Type} (x : Except ValidationError α) (f : α → β) (g : β → γ) :
    (x.map f).map g = x.map fun a => g (f a) :=
  Functor.map_map f g x

theorem tryModify_map {γ : Type} {x : Except ValidationError γ}
    {f : α → Except ValidationError α} (g : γ → α → α) {l : List α} {i : Nat} {a : α}
    (ha : l[i]? = some a) (h : f a = x.map fun c => g c a) :
    tryModify l i f = x.map fun c => l.modify i (g c) := by
  have hset (c : γ) : l.set i (g c a) = l.modify i (g c) := by
    rw [@List.modify_eq_set _ ⟨a⟩, ha]
    rfl
  unfold tryModify
  simp only [ha, h, exceptMap_map, hset]

theorem tryModify_of_same {f : α → Except ValidationError α} {l : List α} {i : Nat}
    (h : ∀ a, l[i]? = some a → f a = .ok a) : tryModify l i f = .ok l := by
  cases ha : l[i]? with
  | none =>
    unfold tryModify
    rw [ha]
  | some a =>
    rw [tryModify_map (x := .ok ()) (fun _ => id) ha (h a ha)]
    exact congrArg _ (List.modify_id i l)

end

/-! ## declarations at a place -/

namespace Schema

/-- what is declared at a place, if there is such a place -/
def declarations? (s : Schema) : Place → Option Declarations
  | .schema => some s.declarations
  | .pattern i => s.patterns[i]?.map (·.declarations)
  | .rule i j => s.patterns[i]?.bind fun p => p.rules[j]?.map (·.declarations)

/-- a change of what is declared at a place; without such a place nothing changes -/
def updateDeclarations (s : Schema) (f : Declarations → Declarations) : Place → Schema
  | .schema => { s with declarations := f s.declarations }
  | .pattern i => s.updatePattern i fun p => { p with declarations := f p.declarations }
  | .rule i j => s.updateRule i j fun r => { r with declarations := f r.declarations }

variable {s s' : Schema} {place : Place}

/-- a variable is declared with the value that compiles, or not at all -/
theorem edit_define (h : (s.declarations? place).isSome) (name value : String) :
    s.edit (.define place name value) =
      ((compile value s.binding place.dialect).mapError .compile).map fun e =>
        s.updateDeclarations (·.define name e) place := by
  obtain ⟨d, hd⟩ := Option.isSome_iff_exists.mp h
  cases place with
  | schema => exact s.define_eq name value
  | pattern i =>
    obtain ⟨p, hp, -⟩ := Option.map_eq_some_iff.mp hd
    have hpatterns := tryModify_map (f := (·.define s.binding name value))
      (fun e p => { p with declarations := p.declarations.define name e }) hp
      (p.define_eq s.binding name value)
    exact (congrArg (Except.map _) hpatterns).trans (exceptMap_map _ _ _)
  | rule i j =>
    obtain ⟨p, hp, hd⟩ := Option.bind_eq_some_iff.mp hd
    obtain ⟨r, hr, -⟩ := Option.map_eq_some_iff.mp hd
    have hrules := tryModify_map (f := (·.define s.binding name value))
      (fun e r => { r with declarations := r.declarations.define name e }) hr
      (r.define_eq s.binding name value)
    have hpatterns := tryModify_map (f := fun p => p.tryRule j (·.define s.binding name value))
      (fun e p => p.updateRule j fun r =>
        { r with declarations := r.declarations.define name e }) hp
      ((congrArg (Except.map _) hrules).trans (exceptMap_map _ _ _))
    exact (congrArg (Except.map _) hpatterns).trans (exceptMap_map _ _ _)

theorem edit_define_of_none (h : s.declarations? place = none) (name value : String) :
    s.edit (.define place name value) = .ok s := by
  cases place with
  | schema => cases h
  | pattern i =>
    have hp : s.patterns[i]? = none := Option.map_eq_none_iff.mp h
    have hpatterns : tryModify s.patterns i (·.define s.binding name value) = .ok s.patterns :=
      tryModify_of_same fun p hp' => by rw [hp] at hp'; cases hp'
    exact congrArg (Except.map _) hpatterns
  | rule i j =>
    have hr (p : Pattern) (hp : s.patterns[i]? = some p) : p.rules[j]? = none :=
      Option.map_eq_none_iff.mp (Option.bind_eq_none_iff.mp h p hp)
    have hpatterns : tryModify s.patterns i
        (fun p => p.tryRule j (·.define s.binding name value)) = .ok s.patterns := by
      refine tryModify_of_same fun p hp => ?_
      have hrules : tryModify p.rules j (·.define s.binding name value) = .ok p.rules :=
        tryModify_of_same fun r hr' => by rw [hr p hp] at hr'; cases hr'
      exact congrArg (Except.map _) hrules
    exact congrArg (Except.map _) hpatterns

theorem edit_defineFunction (s : Schema) (place : Place) (f : FunctionDecl) :
    s.edit (.defineFunction place f) = .ok (s.updateDeclarations (·.defineFunction f) place) := by
  cases place <;> rfl

theorem updateDeclarations_of_none (h : s.declarations? place = none)
    (f : Declarations → Declarations) : s.updateDeclarations f place = s := by
  have hsame (patterns : List Pattern) (heq : patterns = s.patterns) : { s with patterns } = s := by
    rw [heq]
  cases place with
  | schema => cases h
  | pattern i =>
    have hp : s.patterns[i]? = none := Option.map_eq_none_iff.mp h
    exact hsame _ (modify_of_same fun p hp' => by rw [hp] at hp'; cases hp')
  | rule i j =>
    refine hsame _ (modify_of_same fun p hp => ?_)
    have hr : p.rules[j]? = none := Option.map_eq_none_iff.mp (Option.bind_eq_none_iff.mp h p hp)
    show Pattern.mk p.id p.title p.declarations (p.rules.modify j _) = p
    rw [modify_of_same fun r hr' => by rw [hr] at hr'; cases hr']

/-! ## ids -/

def patternIds (s : Schema) : List String := s.patterns.map (·.id)

def phaseIds (s : Schema) : List String := s.phases.map (·.id)

/-- what an edit can do to ids and phases: nothing, or one more pattern, or one more phase -/
inductive IdStep (s s' : Schema) : Prop
  | same (patterns : s'.patternIds = s.patternIds) (phases : s'.phases = s.phases)
  | pattern {id} (fresh : id ∉ s.patternIds) (patterns : s'.patternIds = s.patternIds ++ [id])
    (phases : s'.phases = s.phases)
  | phase {ph : Phase} (fresh : ph.id ∉ s.phaseIds) (active : ∀ id ∈ ph.active, id ∈ s.patternIds)
    (patterns : s'.patternIds = s.patternIds) (phases : s'.phases = s.phases ++ [ph])

theorem patternIds_updatePattern (s : Schema) (i : Nat) (f : Pattern → Pattern) :
    (s.updatePattern i f).patternIds = s.patternIds := by
  have hids := map_modify (f := Pattern.id) (g := fun p => { f p with id := p.id }) (k := id)
    (fun _ => rfl) s.patterns i
  exact hids.trans (List.modify_id i _)

theorem IdStep.updatePattern (s : Schema) (i : Nat) (f : Pattern → Pattern) :
    s.IdStep (s.updatePattern i f) :=
  .same (s.patternIds_updatePattern i f) rfl

theorem IdStep.updateDeclarations (s : Schema) (f : Declarations → Declarations) (place : Place) :
    s.IdStep (s.updateDeclarations f place) := by
  cases place with
  | schema => exact .same rfl rfl
  | pattern i => exact .updatePattern s i _
  | rule i j => exact .updatePattern s i _

theorem mem_patternIds_iff {id : String} : id ∈ s.patternIds ↔ (s.pattern? id).isSome = true := by
  unfold patternIds pattern?
  simp [List.find?_isSome]

theorem mem_phaseIds_iff {id : String} : id ∈ s.phaseIds ↔ (s.phase? id).isSome = true := by
  unfold phaseIds phase?
  simp [List.find?_isSome]

theorem idStep_of_addPattern {id : String} (h : s.addPattern id = .ok s') : s.IdStep s' := by
  unfold addPattern at h
  split at h
  · cases h
  next hnone =>
    cases h
    have fresh : id ∉ s.patternIds := fun hmem => hnone (mem_patternIds_iff.mp hmem)
    exact .pattern fresh List.map_append rfl

theorem idStep_of_addPhase {id : String} {active : List String}
    (h : s.addPhase id active = .ok s') : s.IdStep s' := by
  unfold addPhase at h
  split at h
  · cases h
  next hnone =>
    split at h
    · cases h
    next hall =>
      cases h
      have fresh : (Phase.mk id active).id ∉ s.phaseIds :=
        fun hmem => hnone (mem_phaseIds_iff.mp hmem)
      refine .phase fresh (fun p hp => ?_) rfl rfl
      rw [mem_patternIds_iff]
      simpa [Option.isSome_iff_ne_none] using List.find?_eq_none.mp hall p hp

/-- **All that an edit can do to ids and phases.** -/
theorem idStep_of_edit {e : Edit} (h : s.edit e = .ok s') : s.IdStep s' := by
  cases e with
  | define place name value =>
    cases hplace : s.declarations? place with
    | none =>
      rw [edit_define_of_none hplace] at h
      cases h
      exact .same rfl rfl
    | some d =>
      rw [edit_define (by rw [hplace]; rfl)] at h
      cases hc : compile value s.binding place.dialect with
      | error e =>
        rw [hc] at h
        cases h
      | ok e =>
        rw [hc] at h
        cases h
        exact .updateDeclarations s _ place
  | defineFunction place f =>
    rw [edit_defineFunction] at h
    cases h
    exact .updateDeclarations s _ place
  | addNamespace name uri => cases h; exact .same rfl rfl
  | addPattern id => exact idStep_of_addPattern h
  | addPhase id active => exact idStep_of_addPhase h
  | setTitle i title => cases h; exact .updatePattern s i _
  | addRule i context => cases h; exact .updatePattern s i _
  | setId i j id => cases h; exact .updatePattern s i _
  | addAssertion i j id kind severity test message => cases h; exact .updatePattern s i _
  | setFlag i j k flag => cases h; exact .updatePattern s i _
  | setRole i j k role => cases h; exact .updatePattern s i _

/-! ## consistent schemas -/

/-- ids are unique, and phases list patterns that exist -/
structure Consistent (s : Schema) : Prop where
  patterns : s.patternIds.Nodup
  phases : s.phaseIds.Nodup
  active : ∀ ph ∈ s.phases, ∀ id ∈ ph.active, id ∈ s.patternIds

theorem consistent_new {title tag : String} (h : new title tag = .ok s) : s.Consistent := by
  unfold new at h
  split at h
  · cases h
    exact ⟨.nil, .nil, nofun⟩
  · cases h

theorem Consistent.step (h : s.Consistent) (hstep : s.IdStep s') : s'.Consistent := by
  cases hstep with
  | same patterns phases =>
    refine ⟨patterns ▸ h.patterns, ?_, ?_⟩
    · unfold phaseIds
      rw [phases]
      exact h.phases
    · rw [phases, patterns]
      exact h.active
  | pattern fresh patterns phases =>
    refine ⟨?_, ?_, ?_⟩
    · rw [patterns]
      exact nodup_concat h.patterns fresh
    · unfold phaseIds
      rw [phases]
      exact h.phases
    · rw [phases, patterns]
      exact fun ph hph id hid => List.mem_append_left _ (h.active ph hph id hid)
  | phase fresh active patterns phases =>
    refine ⟨patterns ▸ h.patterns, ?_, ?_⟩
    · unfold phaseIds
      rw [phases, List.map_append]
      exact nodup_concat h.phases fresh
    · rw [phases, patterns]
      intro ph hph
      rcases List.mem_append.mp hph with hph | hph
      · exact h.active ph hph
      · rw [List.mem_singleton.mp hph]
        exact active

/-- a phase is found by its id -/
theorem Consistent.phase?_eq (h : s.Consistent) {ph : Phase} (hph : ph ∈ s.phases) :
    s.phase? ph.id = some ph :=
  find?_of_nodup_map (f := Phase.id) h.phases hph

theorem Consistent.activePatterns_eq (h : s.Consistent) {ph : Phase} (hph : ph ∈ s.phases) :
    s.activePatterns (some ph.id) = .ok (s.patterns.filter fun p => ph.active.contains p.id) := by
  simp only [activePatterns, h.phase?_eq hph]

/-- each listed pattern is active once, however often the phase lists it -/
theorem Consistent.count_active (h : s.Consistent) {ph : Phase} (hph : ph ∈ s.phases)
    (id : String) :
    ((s.patterns.filter fun p => ph.active.contains p.id).map (·.id)).count id =
      if id ∈ ph.active then 1 else 0 := by
  have hfilter : (s.patterns.filter fun p => ph.active.contains p.id).map (·.id) =
      s.patternIds.filter (ph.active.contains ·) :=
    (List.filter_map (f := Pattern.id) (p := (ph.active.contains ·))).symm
  rw [hfilter]
  by_cases hid : id ∈ ph.active
  · rw [List.count_filter (by simp [hid]), h.patterns.count, if_pos (h.active ph hph id hid),
      if_pos hid]
  · rw [if_neg hid]
    exact List.count_eq_zero_of_not_mem fun hmem => hid (by simpa using (List.mem_filter.mp hmem).2)

theorem apply_of_ok {e : Edit} (h : s.edit e = .ok s') : s.apply e = s' := by
  unfold apply
  rw [h]
  rfl

theorem apply_of_error {e : Edit} {error : ValidationError} (h : s.edit e = .error error) :
    s.apply e = s := by
  unfold apply
  rw [h]
  rfl

theorem Consistent.apply (h : s.Consistent) (e : Edit) : (s.apply e).Consistent := by
  cases he : s.edit e with
  | error error =>
    rw [apply_of_error he]
    exact h
  | ok s' =>
    rw [apply_of_ok he]
    exact h.step (idStep_of_edit he)

theorem Consistent.build (h : s.Consistent) (es : List Edit) : (s.build es).Consistent := by
  induction es generalizing s with
  | nil => exact h
  | cons e es ih => exact ih (h.apply e)

/-- **Whatever the edits are, the schema behind them is consistent.** -/
theorem Built.consistent (h : s.Built) : s.Consistent := by
  obtain ⟨title, tag, s₀, es, hnew, rfl⟩ := h
  exact (consistent_new hnew).build es

end Schema

end Rulebook
