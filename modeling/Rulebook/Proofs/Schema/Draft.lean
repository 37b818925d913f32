import Rulebook.Proofs.Schema.Editing
import Rulebook.Proofs.Scope.Levels

/-!
# Schemas whose levels are shared

A finished schema holds what each of its levels declares.  While it is built, a level is a scope of
a forest that others refer to: the level of a rule lies within that of its pattern, and the level
of a pattern within that of the schema.  A declaration changes a scope and nothing else.

* `Draft`           a schema whose parts refer to their levels;
* `Draft.schema`    the schema that it stands for;
* `Draft.apply`     what an edit answers, and the draft after it;
* `Draft.Linked`    every level lies within the right one, and no two parts share a level.

`Draft.Linked.schema_declare`: **a declaration at a place of a linked draft is one at that place of
its schema, and nowhere else.**
-/

set_option autoImplicit false

namespace Rulebook

/-! ## drafts -/

structure DraftRule where
  id : Option String
  context : String
  binding : Binding
  /-- the number of its scope -/
  level : Nat
  assertions : List Assertion

structure DraftPattern where
  id : String
  title : Option String
  binding : Binding
  level : Nat
  rules : List DraftRule

structure Draft where
  title : String
  binding : Binding
  level : Nat
  patterns : List DraftPattern
  phases : List Phase
  namespaces : Table String
  forest : Forest

/-! ### the schema of a draft -/

def DraftRule.rule (t : Forest) (r : DraftRule) : Rule :=
  ⟨r.id, r.context, t.declared r.level, r.assertions⟩

def DraftPattern.pattern (t : Forest) (p : DraftPattern) : Pattern :=
  ⟨p.id, p.title, t.declared p.level, p.rules.map (·.rule t)⟩

def Draft.schema (d : Draft) : Schema :=
  ⟨d.title, d.binding, d.forest.declared d.level, d.patterns.map (·.pattern d.forest), d.phases,
    d.namespaces⟩

/-! ### edits -/

/-- calls that change a draft and may fail; a failure does not undo what was done before it -/
abbrev Drafting := ExceptT ValidationError (StateM Draft)

namespace Draft

def new (title tag : String) : Except ValidationError Draft :=
  match Binding.ofTag? tag with
  | some binding => .ok ⟨title, binding, 0, [], [], ∅, Forest.empty.addLevel none⟩
  | none => .error (.unknownBinding tag)

def pattern? (d : Draft) (id : String) : Option DraftPattern := d.patterns.find? (·.id == id)

def phase? (d : Draft) (id : String) : Option Phase := d.phases.find? (·.id == id)

/-- the scope of a place, and the binding of what is declared there -/
def site? (d : Draft) : Place → Option (Nat × Binding)
  | .schema => some (d.level, d.binding)
  | .pattern i => d.patterns[i]?.map fun p => (p.level, p.binding)
  | .rule i j => d.patterns[i]?.bind fun p => p.rules[j]?.map fun r => (r.level, r.binding)

/-- a change of what a scope declares -/
def declare (d : Draft) (level : Nat) (f : Declarations → Declarations) : Draft :=
  { d with forest := d.forest.update level f }

def updatePattern (d : Draft) (i : Nat) (f : DraftPattern → DraftPattern) : Draft :=
  { d with patterns := d.patterns.modify i f }

def updateRule (d : Draft) (i j : Nat) (f : DraftRule → DraftRule) : Draft :=
  d.updatePattern i fun p => { p with rules := p.rules.modify j f }

/-- a new scope within another one -/
def newLevel (outer : Nat) : Drafting Nat :=
  modifyGet fun d => (d.forest.size, { d with forest := d.forest.addLevel (some outer) })

def define (place : Place) (name value : String) : Drafting Unit := do
  match (← get).site? place with
  | none => return
  | some (level, binding) =>
    match compile value binding place.dialect with
    | .ok e => modify (·.declare level (·.define name e))
    | .error e => throw (.compile e)

def defineFunction (place : Place) (f : FunctionDecl) : Drafting Unit := do
  match (← get).site? place with
  | none => return
  | some (level, _) => modify (·.declare level (·.defineFunction f))

def addPattern (id : String) : Drafting Unit := do
  let d ← get
  if (d.pattern? id).isSome then throw (.duplicatePattern id)
  let level ← newLevel d.level
  modify fun d => { d with patterns := d.patterns ++ [⟨id, none, d.binding, level, []⟩] }

def addPhase (id : String) (active : List String) : Drafting Unit := do
  let d ← get
  if (d.phase? id).isSome then throw (.duplicatePhase id)
  match active.find? fun p => (d.pattern? p).isNone with
  | some missing => throw (.unknownPhasePattern id missing)
  | none => modify fun d => { d with phases := d.phases ++ [⟨id, active⟩] }

def addRule (i : Nat) (context : String) : Drafting Unit := do
  match (← get).patterns[i]? with
  | none => return
  | some p =>
    let level ← newLevel p.level
    modify (·.updatePattern i fun p =>
      { p with rules := p.rules ++ [⟨none, context, p.binding, level, []⟩] })

def edit : Edit → Drafting Unit
  | .define place name value => define place name value
  | .defineFunction place f => defineFunction place f
  | .addNamespace name uri =>
    modify fun d => { d with namespaces := d.namespaces.insert name uri }
  | .addPattern id => addPattern id
  | .addPhase id active => addPhase id active
  | .setTitle i title => modify (·.updatePattern i fun p => { p with title := some title })
  | .addRule i context => addRule i context
  | .setId i j id => modify (·.updateRule i j fun r => { r with id := some id })
  | .addAssertion i j id kind severity test message =>
    modify (·.updateRule i j fun r =>
      { r with assertions := r.assertions ++ [.new id kind severity test message] })
  | .setFlag i j k flag =>
    modify (·.updateRule i j fun r =>
      { r with assertions := r.assertions.modify k (·.setFlag flag) })
  | .setRole i j k role =>
    modify (·.updateRule i j fun r =>
      { r with assertions := r.assertions.modify k (·.setRole role) })

/-- what an edit answers, and the draft after it -/
def apply (d : Draft) (e : Edit) : Except ValidationError Unit × Draft := (edit e).run d

/-- the draft after some edits, whatever they answer -/
def build (d : Draft) (es : List Edit) : Draft := es.foldl (fun d e => (d.apply e).2) d

end Draft

/-! ## linked drafts -/

/-- the parts of a pattern lie where they should, and no two of them share a level -/
structure DraftPattern.Linked (t : Forest) (outer : Nat) (b : Binding) (p : DraftPattern) :
    Prop where
  within : t.IsLevel p.level (some outer)
  binding : p.binding = b
  rules : ∀ r ∈ p.rules, t.IsLevel r.level (some p.level) ∧ r.binding = b
  apart : (p.rules.map (·.level)).Nodup

/-- every level lies within the right one, and no two parts share a level -/
structure Draft.Linked (d : Draft) : Prop where
  outermost : d.forest.IsLevel d.level none
  patterns : ∀ p ∈ d.patterns, p.Linked d.forest d.level d.binding
  apart : (d.patterns.map (·.level)).Nodup

theorem DraftRule.rule_congr {t t' : Forest} {r : DraftRule}
    (h : t'.declared r.level = t.declared r.level) : r.rule t' = r.rule t := by
  unfold rule
  rw [h]

theorem DraftPattern.pattern_congr {t t' : Forest} {p : DraftPattern}
    (hlevel : t'.declared p.level = t.declared p.level)
    (hrules : ∀ r ∈ p.rules, t'.declared r.level = t.declared r.level) :
    p.pattern t' = p.pattern t := by
  have hmap : p.rules.map (·.rule t') = p.rules.map (·.rule t) :=
    List.map_congr_left fun r hr => DraftRule.rule_congr (hrules r hr)
  unfold DraftPattern.pattern
  rw [hlevel, hmap]

/-- what another scope declares does not matter to a rule -/
theorem DraftRule.rule_update {t : Forest} {r : DraftRule} {level : Nat} (h : level ≠ r.level)
    (f : Declarations → Declarations) : r.rule (t.update level f) = r.rule t :=
  rule_congr (Forest.declared_update_of_ne h f)

/-- what another scope declares does not matter to a pattern -/
theorem DraftPattern.pattern_update {t : Forest} {p : DraftPattern} {level : Nat}
    (hlevel : level ≠ p.level) (hrules : ∀ r ∈ p.rules, level ≠ r.level)
    (f : Declarations → Declarations) : p.pattern (t.update level f) = p.pattern t :=
  pattern_congr (Forest.declared_update_of_ne hlevel f) fun r hr =>
    Forest.declared_update_of_ne (hrules r hr) f

theorem DraftPattern.Linked.addLevel {t : Forest} {outer : Nat} {b : Binding} {p : DraftPattern}
    (h : p.Linked t outer b) (o : Option Nat) : p.Linked (t.addLevel o) outer b where
  within := h.within.addLevel o
  binding := h.binding
  rules r hr := ⟨(h.rules r hr).1.addLevel o, (h.rules r hr).2⟩
  apart := h.apart

namespace Draft

theorem linked_new {title tag : String} {d : Draft} (h : new title tag = .ok d) : d.Linked := by
  unfold new at h
  split at h
  · cases h
    exact ⟨Forest.isLevel_addLevel nofun, nofun, .nil⟩
  · cases h

variable {d : Draft} {i j : Nat}

theorem Linked.pattern_ne (h : d.Linked) {p : DraftPattern} (hp : p ∈ d.patterns) :
    p.level ≠ d.level :=
  (h.patterns p hp).within.ne h.outermost nofun

theorem Linked.rule_ne (h : d.Linked) {p : DraftPattern} (hp : p ∈ d.patterns) {r : DraftRule}
    (hr : r ∈ p.rules) : r.level ≠ d.level :=
  ((h.patterns p hp).rules r hr).1.ne h.outermost nofun

/-- the level of a rule is none of a pattern -/
theorem Linked.rule_ne_pattern (h : d.Linked) {p q : DraftPattern} (hp : p ∈ d.patterns)
    (hq : q ∈ d.patterns) {r : DraftRule} (hr : r ∈ p.rules) : r.level ≠ q.level :=
  ((h.patterns p hp).rules r hr).1.ne (h.patterns q hq).within fun heq =>
    h.pattern_ne hp (Option.some.inj heq)

/-! ### declarations -/

theorem Linked.declare (h : d.Linked) (level : Nat) (f : Declarations → Declarations) :
    (d.declare level f).Linked where
  outermost := h.outermost.update level f
  patterns p hp :=
    { within := (h.patterns p hp).within.update level f
      binding := (h.patterns p hp).binding
      rules := fun r hr =>
        ⟨((h.patterns p hp).rules r hr).1.update level f, ((h.patterns p hp).rules r hr).2⟩
      apart := (h.patterns p hp).apart }
  apart := h.apart

theorem schema_declare_eq (d : Draft) {level : Nat} {f : Declarations → Declarations}
    {declarations : Declarations} {patterns : List Pattern}
    (hlevel : (d.forest.update level f).declared d.level = declarations)
    (hpatterns : d.patterns.map (·.pattern (d.forest.update level f)) = patterns) :
    (d.declare level f).schema = { d.schema with declarations, patterns } := by
  subst hlevel hpatterns
  rfl

/-- a declaration of the schema is one of no pattern -/
theorem Linked.schema_declare_schema (h : d.Linked) (f : Declarations → Declarations) :
    (d.declare d.level f).schema = d.schema.updateDeclarations f .schema := by
  have hpatterns : d.patterns.map (·.pattern (d.forest.update d.level f)) =
      d.patterns.map (·.pattern d.forest) :=
    List.map_congr_left fun p hp =>
      p.pattern_update (h.pattern_ne hp).symm (fun r hr => (h.rule_ne hp hr).symm) f
  exact d.schema_declare_eq (Forest.declared_update h.outermost.declares f) hpatterns

/-- a declaration of a pattern is one of no rule and of no other pattern -/
theorem Linked.schema_declare_pattern (h : d.Linked) {p : DraftPattern}
    (hp : d.patterns[i]? = some p) (f : Declarations → Declarations) :
    (d.declare p.level f).schema = d.schema.updateDeclarations f (.pattern i) := by
  have hmem := List.mem_of_getElem? hp
  have hpatterns : d.patterns.map (·.pattern (d.forest.update p.level f)) =
      (d.patterns.map (·.pattern d.forest)).modify i fun q =>
        { q with declarations := f q.declarations } := by
    refine map_eq_modify (fun q hq => ?_) fun k q hk hq => ?_
    · obtain rfl := Option.some.inj (hp.symm.trans hq)
      have hrules : p.rules.map (·.rule (d.forest.update p.level f)) =
          p.rules.map (·.rule d.forest) :=
        List.map_congr_left fun r hr =>
          r.rule_update (h.rule_ne_pattern hmem hmem hr).symm f
      show Pattern.mk .. = Pattern.mk ..
      rw [Forest.declared_update (h.patterns p hmem).within.declares, hrules]
      rfl
    · exact q.pattern_update (ne_of_nodup_map h.apart hp hq (Ne.symm hk))
        (fun r hr => (h.rule_ne_pattern (List.mem_of_getElem? hq) hmem hr).symm) f
  exact d.schema_declare_eq (Forest.declared_update_of_ne (h.pattern_ne hmem) f) hpatterns

/-- a declaration of a rule is one of no pattern and of no other rule -/
theorem Linked.schema_declare_rule (h : d.Linked) {p : DraftPattern}
    (hp : d.patterns[i]? = some p) {r : DraftRule} (hr : p.rules[j]? = some r)
    (f : Declarations → Declarations) :
    (d.declare r.level f).schema = d.schema.updateDeclarations f (.rule i j) := by
  have hmem := List.mem_of_getElem? hp
  have hrule := List.mem_of_getElem? hr
  have hrules : p.rules.map (·.rule (d.forest.update r.level f)) =
      (p.rules.map (·.rule d.forest)).modify j fun q =>
        { q with declarations := f q.declarations } := by
    refine map_eq_modify (fun q hq => ?_) fun k q hk hq => ?_
    · obtain rfl := Option.some.inj (hr.symm.trans hq)
      show Rule.mk .. = Rule.mk ..
      rw [Forest.declared_update ((h.patterns p hmem).rules r hrule).1.declares]
      rfl
    · exact q.rule_update (ne_of_nodup_map (h.patterns p hmem).apart hr hq (Ne.symm hk)) f
  have hpatterns : d.patterns.map (·.pattern (d.forest.update r.level f)) =
      (d.patterns.map (·.pattern d.forest)).modify i fun q =>
        q.updateRule j fun q => { q with declarations := f q.declarations } := by
    refine map_eq_modify (fun q hq => ?_) fun k q hk hq => ?_
    · obtain rfl := Option.some.inj (hp.symm.trans hq)
      show Pattern.mk .. = Pattern.mk ..
      rw [Forest.declared_update_of_ne (h.rule_ne_pattern hmem hmem hrule), hrules]
      rfl
    · have hother := List.mem_of_getElem? hq
      refine q.pattern_update (h.rule_ne_pattern hmem hother hrule) (fun r' hr' => ?_) f
      -- rules of two patterns lie within two levels
      refine ((h.patterns p hmem).rules r hrule).1.ne ((h.patterns q hother).rules r' hr').1 ?_
      exact fun heq => ne_of_nodup_map h.apart hp hq (Ne.symm hk) (Option.some.inj heq)
  exact d.schema_declare_eq (Forest.declared_update_of_ne (h.rule_ne hmem hrule) f) hpatterns

/-- **A declaration at a place of a draft is one at that place of its schema.** -/
theorem Linked.schema_declare (h : d.Linked) {place : Place} {level : Nat} {b : Binding}
    (hsite : d.site? place = some (level, b)) (f : Declarations → Declarations) :
    (d.declare level f).schema = d.schema.updateDeclarations f place := by
  cases place with
  | schema =>
    obtain ⟨rfl, rfl⟩ := Prod.mk.inj (Option.some.inj hsite)
    exact h.schema_declare_schema f
  | pattern i =>
    obtain ⟨p, hp, hsite⟩ := Option.map_eq_some_iff.mp hsite
    obtain ⟨rfl, rfl⟩ := Prod.mk.inj hsite
    exact h.schema_declare_pattern hp f
  | rule i j =>
    obtain ⟨p, hp, hsite⟩ := Option.bind_eq_some_iff.mp hsite
    obtain ⟨r, hr, hsite⟩ := Option.map_eq_some_iff.mp hsite
    obtain ⟨rfl, rfl⟩ := Prod.mk.inj hsite
    exact h.schema_declare_rule hp hr f

/-! ### new levels -/

/-- a draft with a scope more, which nothing refers to yet -/
def withLevel (d : Draft) (outer : Nat) : Draft :=
  { d with forest := d.forest.addLevel (some outer) }

theorem Linked.withLevel (h : d.Linked) (outer : Nat) : (d.withLevel outer).Linked where
  outermost := h.outermost.addLevel _
  patterns p hp := (h.patterns p hp).addLevel _
  apart := h.apart

theorem schema_withLevel (d : Draft) (outer : Nat) : (d.withLevel outer).schema = d.schema := by
  have hpatterns : d.patterns.map (·.pattern (d.forest.addLevel (some outer))) =
      d.patterns.map (·.pattern d.forest) :=
    List.map_congr_left fun p _ =>
      DraftPattern.pattern_congr (Forest.declared_addLevel ..) fun r _ =>
        Forest.declared_addLevel ..
  have hlevel := Forest.declared_addLevel d.forest (some outer) d.level
  show Schema.mk d.title d.binding ((d.forest.addLevel (some outer)).declared d.level)
    (d.patterns.map (·.pattern (d.forest.addLevel (some outer)))) d.phases d.namespaces = _
  rw [hlevel, hpatterns]
  rfl

end Draft

end Rulebook
