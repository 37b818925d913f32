import Rulebook.Proofs.Schema.Draft

/-!
# Edits of a draft

An edit of a draft answers what the edit of its schema answers.  Where it fails, nothing has been
changed, the scopes included; where it succeeds, the new draft stands for the new schema.

* `Draft.apply_define_of_ok` …   each edit that looks before it changes something, by its outcomes;
* `Draft.Agrees`                 an edit of a draft next to that of its schema;
* `Draft.Linked.agrees`          every edit of a linked draft agrees, and the next draft is linked.

`consistent_build`: **whatever the edits of a new draft are, it is linked and its schema is
consistent, and an edit that fails changes nothing.**
-/

set_option autoImplicit false

namespace Rulebook

namespace Draft

variable {d : Draft} {i j : Nat}

/-! ## what an edit does -/

/-- a new pattern behind the others -/
def concatPattern (d : Draft) (id : String) : Draft :=
  { d.withLevel d.level with
    patterns := d.patterns ++ [⟨id, none, d.binding, d.forest.size, []⟩] }

/-- a new rule behind those of a pattern -/
def concatRule (d : Draft) (i level : Nat) (context : String) : Draft :=
  (d.withLevel level).updatePattern i fun p =>
    { p with rules := p.rules ++ [⟨none, context, p.binding, d.forest.size, []⟩] }

theorem run_get_bind (d : Draft) (k : Draft → Drafting Unit) : (get >>= k).run d = (k d).run d :=
  rfl

section
variable {place : Place} {level : Nat} {b : Binding} {name value : String}

theorem apply_define_of_none (d : Draft) (h : d.site? place = none) (name value : String) :
    d.apply (.define place name value) = (.ok (), d) := by
  show (define place name value).run d = _
  unfold define
  rw [run_get_bind, h]
  rfl

theorem apply_define_of_error (d : Draft) {e : CompileError} (h : d.site? place = some (level, b))
    (hc : compile value b place.dialect = .error e) :
    d.apply (.define place name value) = (.error (.compile e), d) := by
  show (define place name value).run d = _
  unfold define
  rw [run_get_bind, h]
  simp only [hc]
  rfl

theorem apply_define_of_ok (d : Draft) {e : Compiled} (h : d.site? place = some (level, b))
    (hc : compile value b place.dialect = .ok e) :
    d.apply (.define place name value) = (.ok (), d.declare level (·.define name e)) := by
  show (define place name value).run d = _
  unfold define
  rw [run_get_bind, h]
  simp only [hc]
  rfl

theorem apply_defineFunction_of_none (d : Draft) (h : d.site? place = none) (f : FunctionDecl) :
    d.apply (.defineFunction place f) = (.ok (), d) := by
  show (defineFunction place f).run d = _
  unfold defineFunction
  rw [run_get_bind, h]
  rfl

theorem apply_defineFunction_of_some (d : Draft) (h : d.site? place = some (level, b))
    (f : FunctionDecl) :
    d.apply (.defineFunction place f) = (.ok (), d.declare level (·.defineFunction f)) := by
  show (defineFunction place f).run d = _
  unfold defineFunction
  rw [run_get_bind, h]
  rfl

end

theorem apply_addPattern_of_some (d : Draft) {id : String} (h : (d.pattern? id).isSome = true) :
    d.apply (.addPattern id) = (.error (.duplicatePattern id), d) := by
  show (addPattern id).run d = _
  unfold addPattern
  rw [run_get_bind, if_pos h]
  rfl

theorem apply_addPattern_of_none (d : Draft) {id : String} (h : ¬ (d.pattern? id).isSome = true) :
    d.apply (.addPattern id) = (.ok (), d.concatPattern id) := by
  show (addPattern id).run d = _
  unfold addPattern
  rw [run_get_bind, if_neg h]
  rfl

section
variable {id : String} {active : List String}

theorem apply_addPhase_of_some (d : Draft) (h : (d.phase? id).isSome = true) :
    d.apply (.addPhase id active) = (.error (.duplicatePhase id), d) := by
  show (addPhase id active).run d = _
  unfold addPhase
  rw [run_get_bind, if_pos h]
  rfl

theorem apply_addPhase_of_missing (d : Draft) (h : ¬ (d.phase? id).isSome = true)
    {missing : String} (hmissing : (active.find? fun p => (d.pattern? p).isNone) = some missing) :
    d.apply (.addPhase id active) = (.error (.unknownPhasePattern id missing), d) := by
  show (addPhase id active).run d = _
  unfold addPhase
  rw [run_get_bind, if_neg h]
  simp only [hmissing]
  rfl

theorem apply_addPhase_of_none (d : Draft) (h : ¬ (d.phase? id).isSome = true)
    (hall : (active.find? fun p => (d.pattern? p).isNone) = none) :
    d.apply (.addPhase id active) = (.ok (), { d with phases := d.phases ++ [⟨id, active⟩] }) := by
  show (addPhase id active).run d = _
  unfold addPhase
  rw [run_get_bind, if_neg h]
  simp only [hall]
  rfl

end

theorem apply_addRule_of_none (d : Draft) (h : d.patterns[i]? = none) (context : String) :
    d.apply (.addRule i context) = (.ok (), d) := by
  show (addRule i context).run d = _
  unfold addRule
  rw [run_get_bind, h]
  rfl

theorem apply_addRule_of_some (d : Draft) {p : DraftPattern} (h : d.patterns[i]? = some p)
    (context : String) :
    d.apply (.addRule i context) = (.ok (), d.concatRule i p.level context) := by
  show (addRule i context).run d = _
  unfold addRule
  rw [run_get_bind, h]
  rfl

/-! ## what the schema of a draft has -/

theorem declarations?_schema (d : Draft) (place : Place) :
    d.schema.declarations? place = (d.site? place).map fun site => d.forest.declared site.1 := by
  cases place with
  | schema => rfl
  | pattern i =>
    show (d.patterns.map (·.pattern d.forest))[i]?.map _ = (d.patterns[i]?.map _).map _
    rw [List.getElem?_map, Option.map_map, Option.map_map]
    rfl
  | rule i j =>
    show ((d.patterns.map (·.pattern d.forest))[i]?.bind _) = (d.patterns[i]?.bind _).map _
    rw [List.getElem?_map]
    cases d.patterns[i]? with
    | none => rfl
    | some p =>
      show (p.rules.map (·.rule d.forest))[j]?.map _ = (p.rules[j]?.map _).map _
      rw [List.getElem?_map, Option.map_map, Option.map_map]
      rfl

theorem pattern?_schema (d : Draft) (id : String) :
    d.schema.pattern? id = (d.pattern? id).map (·.pattern d.forest) :=
  List.find?_map

theorem isSome_pattern?_schema (d : Draft) (id : String) :
    (d.schema.pattern? id).isSome = (d.pattern? id).isSome := by
  rw [pattern?_schema, Option.isSome_map]

theorem isNone_pattern?_schema (d : Draft) (id : String) :
    (d.schema.pattern? id).isNone = (d.pattern? id).isNone := by
  rw [pattern?_schema, Option.isNone_map]

/-- what is declared somewhere has the binding of the draft -/
theorem Linked.site?_binding (h : d.Linked) {place : Place} {level : Nat} {b : Binding}
    (hsite : d.site? place = some (level, b)) : b = d.binding := by
  cases place with
  | schema => exact ((Prod.mk.inj (Option.some.inj hsite)).2).symm
  | pattern i =>
    obtain ⟨p, hp, hsite⟩ := Option.map_eq_some_iff.mp hsite
    rw [← (Prod.mk.inj hsite).2]
    exact (h.patterns p (List.mem_of_getElem? hp)).binding
  | rule i j =>
    obtain ⟨p, hp, hsite⟩ := Option.bind_eq_some_iff.mp hsite
    obtain ⟨r, hr, hsite⟩ := Option.map_eq_some_iff.mp hsite
    rw [← (Prod.mk.inj hsite).2]
    exact ((h.patterns p (List.mem_of_getElem? hp)).rules r (List.mem_of_getElem? hr)).2

/-! ## changes within a pattern -/

theorem schema_updatePattern {g : DraftPattern → DraftPattern} {k : Pattern → Pattern}
    (h : ∀ p, (g p).pattern d.forest = { k (p.pattern d.forest) with id := p.id }) (i : Nat) :
    (d.updatePattern i g).schema = d.schema.updatePattern i k := by
  have hpatterns := map_modify (f := (DraftPattern.pattern d.forest ·))
    (k := fun p => { k p with id := p.id }) h d.patterns i
  exact congrArg (fun patterns => { d.schema with patterns }) hpatterns

theorem schema_updateRule {g : DraftRule → DraftRule} {k : Rule → Rule}
    (h : ∀ r, (g r).rule d.forest = k (r.rule d.forest)) (i j : Nat) :
    (d.updateRule i j g).schema = d.schema.updateRule i j k := by
  refine schema_updatePattern (fun p => ?_) i
  show Pattern.mk p.id p.title _ ((p.rules.modify j g).map (·.rule d.forest)) = _
  rw [map_modify h]
  rfl

theorem Linked.updatePattern (h : d.Linked) {g : DraftPattern → DraftPattern}
    (hlevel : ∀ p, (g p).level = p.level)
    (hlinked : ∀ p, d.patterns[i]? = some p → (g p).Linked d.forest d.level d.binding) :
    (d.updatePattern i g).Linked where
  outermost := h.outermost
  patterns := forall_mem_modify h.patterns hlinked
  apart := by
    show ((d.patterns.modify i g).map (·.level)).Nodup
    rw [map_modify (k := id) hlevel, List.modify_id]
    exact h.apart

theorem Linked.updateRule (h : d.Linked) {g : DraftRule → DraftRule}
    (hlevel : ∀ r, (g r).level = r.level) (hbinding : ∀ r, (g r).binding = r.binding) :
    (d.updateRule i j g).Linked := by
  refine h.updatePattern (fun _ => rfl) fun p hp => ?_
  have hpattern := h.patterns p (List.mem_of_getElem? hp)
  refine ⟨hpattern.within, hpattern.binding, ?_, ?_⟩
  · refine forall_mem_modify hpattern.rules fun r hr => ?_
    rw [hlevel, hbinding]
    exact hpattern.rules r (List.mem_of_getElem? hr)
  · show ((p.rules.modify j g).map (·.level)).Nodup
    rw [map_modify (k := id) hlevel, List.modify_id]
    exact hpattern.apart

/-! ## new patterns and rules -/

/-- a scope more than there are is the level of nothing yet -/
theorem nodup_concat_size {α : Type} {l : List α} {level : α → Nat} {n : Nat}
    (h : (l.map level).Nodup) (hlt : ∀ a ∈ l, level a < n) {a : α} (ha : level a = n) :
    ((l ++ [a]).map level).Nodup := by
  rw [List.map_append]
  refine nodup_concat h fun hmem => ?_
  obtain ⟨b, hb, heq⟩ := List.mem_map.mp hmem
  have hlt := hlt b hb
  omega

theorem Linked.concatPattern (h : d.Linked) (id : String) : (d.concatPattern id).Linked := by
  have hwith := h.withLevel d.level
  refine ⟨hwith.outermost, List.forall_mem_append.mpr ⟨hwith.patterns, ?_⟩,
    nodup_concat_size h.apart (fun p hp => (h.patterns p hp).within.lt_size) rfl⟩
  refine List.forall_mem_singleton.mpr ⟨Forest.isLevel_addLevel ?_, rfl, nofun, .nil⟩
  rintro _ ⟨⟩
  exact h.outermost.lt_size

theorem schema_concatPattern (d : Draft) (id : String) :
    (d.concatPattern id).schema = { d.schema with patterns := d.schema.patterns ++ [.new id] } := by
  have hwith := d.schema_withLevel d.level
  have hpattern : (DraftPattern.mk id none d.binding d.forest.size []).pattern
      (d.withLevel d.level).forest = .new id := by
    show Pattern.mk id none ((d.forest.addLevel _).declared _) _ = _
    rw [Forest.declared_addLevel_size]
    rfl
  have hpatterns : (d.concatPattern id).patterns.map (·.pattern (d.withLevel d.level).forest) =
      d.schema.patterns ++ [.new id] := by
    unfold Draft.concatPattern
    rw [List.map_append, List.map_singleton, hpattern]
    exact congrArg (·.patterns ++ _) hwith
  exact congr (congrArg (fun s patterns => { s with patterns }) hwith) hpatterns

theorem Linked.concatRule (h : d.Linked) {p : DraftPattern} (hp : d.patterns[i]? = some p)
    (context : String) : (d.concatRule i p.level context).Linked := by
  have hmem := List.mem_of_getElem? hp
  have hpattern := (h.patterns p hmem).addLevel (some p.level)
  refine (h.withLevel p.level).updatePattern (fun _ => rfl) fun q hq => ?_
  obtain rfl := Option.some.inj (hp.symm.trans hq)
  refine ⟨hpattern.within, hpattern.binding, ?_, ?_⟩
  · refine List.forall_mem_append.mpr ⟨hpattern.rules, List.forall_mem_singleton.mpr ⟨?_, ?_⟩⟩
    · refine Forest.isLevel_addLevel ?_
      rintro _ ⟨⟩
      exact (h.patterns p hmem).within.lt_size
    · exact hpattern.binding
  · exact nodup_concat_size hpattern.apart
      (fun r hr => ((h.patterns p hmem).rules r hr).1.lt_size) rfl

theorem schema_concatRule (d : Draft) (i level : Nat) (context : String) :
    (d.concatRule i level context).schema =
      d.schema.updatePattern i (·.addRule (.new context)) := by
  rw [← d.schema_withLevel level]
  refine schema_updatePattern (fun p => ?_) i
  have hrule : (DraftRule.mk none context p.binding d.forest.size []).rule
      (d.withLevel level).forest = .new context := by
    show Rule.mk none context _ [] = _
    exact congrArg (Rule.mk none context · []) (Forest.declared_addLevel_size ..)
  show Pattern.mk p.id p.title _ _ = _
  rw [List.map_append, List.map_singleton, hrule]
  rfl

/-! ## every edit -/

/-- an edit of a draft next to that of its schema: either both fail alike, and the draft is as
before, or both are done, and the new draft is linked and stands for the new schema -/
inductive Agrees (d : Draft) (e : Edit) : Prop
  | failed (error : ValidationError) (draft : d.apply e = (.error error, d))
    (schema : d.schema.edit e = .error error)
  | done (d' : Draft) (draft : d.apply e = (.ok (), d')) (schema : d.schema.edit e = .ok d'.schema)
    (linked : d'.Linked)

theorem Linked.agrees_define (h : d.Linked) (place : Place) (name value : String) :
    d.Agrees (.define place name value) := by
  have hdeclarations := d.declarations?_schema place
  cases hsite : d.site? place with
  | none =>
    rw [hsite] at hdeclarations
    exact .done d (d.apply_define_of_none hsite name value)
      (Schema.edit_define_of_none hdeclarations name value) h
  | some site =>
    obtain ⟨level, b⟩ := site
    obtain rfl := h.site?_binding hsite
    rw [hsite] at hdeclarations
    have hedit := Schema.edit_define (by rw [hdeclarations]; rfl) name value
    cases hc : compile value d.binding place.dialect with
    | error e =>
      refine .failed (.compile e) (d.apply_define_of_error hsite hc) (hedit.trans ?_)
      show (Except.mapError _ (compile value d.binding _)).map _ = _
      rw [hc]
      rfl
    | ok e =>
      refine .done _ (d.apply_define_of_ok hsite hc) (hedit.trans ?_) (h.declare level _)
      show (Except.mapError _ (compile value d.binding _)).map _ = _
      rw [hc, h.schema_declare hsite]
      rfl

theorem Linked.agrees_defineFunction (h : d.Linked) (place : Place) (f : FunctionDecl) :
    d.Agrees (.defineFunction place f) := by
  have hdeclarations := d.declarations?_schema place
  have hedit := d.schema.edit_defineFunction place f
  cases hsite : d.site? place with
  | none =>
    rw [hsite] at hdeclarations
    refine .done d (d.apply_defineFunction_of_none hsite f) (hedit.trans ?_) h
    rw [Schema.updateDeclarations_of_none hdeclarations]
  | some site =>
    obtain ⟨level, b⟩ := site
    refine .done _ (d.apply_defineFunction_of_some hsite f) (hedit.trans ?_) (h.declare level _)
    rw [h.schema_declare hsite]

theorem Linked.agrees_addPattern (h : d.Linked) (id : String) : d.Agrees (.addPattern id) := by
  have hsome := d.isSome_pattern?_schema id
  by_cases hid : (d.pattern? id).isSome = true
  · exact .failed _ (d.apply_addPattern_of_some hid) (if_pos (hsome.trans hid))
  · refine .done _ (d.apply_addPattern_of_none hid) ?_ (h.concatPattern id)
    rw [schema_concatPattern]
    exact if_neg (hsome ▸ hid)

theorem Linked.agrees_addPhase (h : d.Linked) (id : String) (active : List String) :
    d.Agrees (.addPhase id active) := by
  have hfind : (active.find? fun p => (d.schema.pattern? p).isNone) =
      active.find? fun p => (d.pattern? p).isNone := by
    simp only [isNone_pattern?_schema]
  by_cases hid : (d.phase? id).isSome = true
  · exact .failed _ (d.apply_addPhase_of_some hid) (if_pos hid)
  · cases hmissing : active.find? fun p => (d.pattern? p).isNone with
    | some missing =>
      refine .failed _ (d.apply_addPhase_of_missing hid hmissing) ((if_neg hid).trans ?_)
      rw [hfind, hmissing]
    | none =>
      refine .done _ (d.apply_addPhase_of_none hid hmissing) ((if_neg hid).trans ?_) ?_
      · rw [hfind, hmissing]
        rfl
      · exact ⟨h.outermost, h.patterns, h.apart⟩

theorem Linked.agrees_addRule (h : d.Linked) (i : Nat) (context : String) :
    d.Agrees (.addRule i context) := by
  cases hp : d.patterns[i]? with
  | none =>
    refine .done d (d.apply_addRule_of_none hp context) ?_ h
    have hnone : d.schema.patterns[i]? = none := by
      show (d.patterns.map _)[i]? = none
      rw [List.getElem?_map, hp, Option.map_none]
    have hsame : d.schema.patterns.modify i (fun p => { p.addRule (.new context) with id := p.id }) =
        d.schema.patterns :=
      modify_of_same fun p hp' => by rw [hnone] at hp'; cases hp'
    exact congrArg (fun patterns => Except.ok { d.schema with patterns }) hsame
  | some p =>
    refine .done _ (d.apply_addRule_of_some hp context) ?_ (h.concatRule hp context)
    exact congrArg Except.ok (d.schema_concatRule i p.level context).symm

/-- a change within a rule agrees -/
theorem Linked.agrees_updateRule (h : d.Linked) {e : Edit} {g : DraftRule → DraftRule}
    {k : Rule → Rule} (happly : d.apply e = (.ok (), d.updateRule i j g))
    (hedit : d.schema.edit e = .ok (d.schema.updateRule i j k))
    (hrule : ∀ r, (g r).rule d.forest = k (r.rule d.forest))
    (hlevel : ∀ r, (g r).level = r.level) (hbinding : ∀ r, (g r).binding = r.binding) :
    d.Agrees e := by
  refine .done _ happly ?_ (h.updateRule hlevel hbinding)
  rw [schema_updateRule hrule]
  exact hedit

/-- **Every edit of a linked draft agrees with that of its schema.** -/
theorem Linked.agrees (h : d.Linked) (e : Edit) : d.Agrees e := by
  cases e with
  | define place name value => exact h.agrees_define place name value
  | defineFunction place f => exact h.agrees_defineFunction place f
  | addNamespace name uri => exact .done _ rfl rfl ⟨h.outermost, h.patterns, h.apart⟩
  | addPattern id => exact h.agrees_addPattern id
  | addPhase id active => exact h.agrees_addPhase id active
  | setTitle i title =>
    refine .done _ rfl ?_ (h.updatePattern (fun _ => rfl) fun p hp => ?_)
    · rw [schema_updatePattern (k := (·.setTitle title)) fun _ => rfl]
      rfl
    · have hpattern := h.patterns p (List.mem_of_getElem? hp)
      exact ⟨hpattern.within, hpattern.binding, hpattern.rules, hpattern.apart⟩
  | addRule i context => exact h.agrees_addRule i context
  | setId i j id =>
    exact h.agrees_updateRule rfl rfl (fun _ => rfl) (fun _ => rfl) fun _ => rfl
  | addAssertion i j id kind severity test message =>
    exact h.agrees_updateRule rfl rfl (fun _ => rfl) (fun _ => rfl) fun _ => rfl
  | setFlag i j k flag =>
    exact h.agrees_updateRule rfl rfl (fun _ => rfl) (fun _ => rfl) fun _ => rfl
  | setRole i j k role =>
    exact h.agrees_updateRule rfl rfl (fun _ => rfl) (fun _ => rfl) fun _ => rfl

/-! ## all edits -/

/-- a new schema has a new draft -/
theorem exists_new {title tag : String} {s : Schema} (h : Schema.new title tag = .ok s) :
    ∃ d, new title tag = .ok d ∧ d.schema = s := by
  unfold Schema.new at h
  unfold new
  cases htag : Binding.ofTag? tag with
  | none =>
    rw [htag] at h
    cases h
  | some binding =>
    rw [htag] at h
    cases h
    exact ⟨_, rfl, rfl⟩

theorem Agrees.apply_of_error {e : Edit} {error : ValidationError} (h : d.Agrees e)
    (herror : d.schema.edit e = .error error) : d.apply e = (.error error, d) := by
  cases h with
  | failed error' draft schema =>
    rw [schema] at herror
    cases herror
    exact draft
  | done d' draft schema =>
    rw [schema] at herror
    cases herror

theorem Agrees.apply_of_ok {e : Edit} {s : Schema} (h : d.Agrees e)
    (hok : d.schema.edit e = .ok s) :
    ∃ d', d.apply e = (.ok (), d') ∧ d'.schema = s ∧ d'.Linked := by
  cases h with
  | failed error draft schema =>
    rw [schema] at hok
    cases hok
  | done d' draft schema linked =>
    rw [schema] at hok
    cases hok
    exact ⟨d', draft, rfl, linked⟩

/-- an edit keeps a draft linked and standing for its schema -/
theorem Linked.apply (h : d.Linked) (e : Edit) :
    (d.apply e).2.Linked ∧ (d.apply e).2.schema = d.schema.apply e := by
  cases he : d.schema.edit e with
  | error error =>
    rw [(h.agrees e).apply_of_error he, Schema.apply_of_error he]
    exact ⟨h, rfl⟩
  | ok s =>
    obtain ⟨d', happly, hschema, hlinked⟩ := (h.agrees e).apply_of_ok he
    rw [happly, Schema.apply_of_ok he]
    exact ⟨hlinked, hschema⟩

theorem Linked.build (h : d.Linked) (es : List Edit) :
    (d.build es).Linked ∧ (d.build es).schema = d.schema.build es := by
  induction es generalizing d with
  | nil => exact ⟨h, rfl⟩
  | cons e es ih =>
    obtain ⟨hlinked, hschema⟩ := h.apply e
    obtain ⟨hrest, heq⟩ := ih hlinked
    refine ⟨hrest, heq.trans ?_⟩
    rw [hschema]
    rfl

/-- from the level of a rule one sees the rule, its pattern and the schema, and nothing else -/
theorem Linked.environment_eq (h : d.Linked) {p : DraftPattern} (hp : p ∈ d.patterns)
    {r : DraftRule} (hr : r ∈ p.rules) :
    d.forest.environment r.level =
      d.schema.environment (p.pattern d.forest) (r.rule d.forest) := by
  rw [Forest.environment_of_isLevel ((h.patterns p hp).rules r hr).1, Option.elim_some,
    Forest.environment_of_isLevel (h.patterns p hp).within, Option.elim_some,
    Forest.environment_of_isLevel h.outermost]
  rfl

end Draft

/-- **Whatever the edits of a new schema are**, ids are unique and phases list patterns that exist;
the level of each rule lies within that of its pattern, and that within the level of the schema;
an edit that fails changes nothing, the scopes included.  So a phase that is declared selects each
of its patterns once and in order, and one that is not declared is refused. -/
theorem consistent_build {title tag : String} {s₀ : Schema} (h : Schema.new title tag = .ok s₀)
    (es : List Edit) :
    ∃ d₀ d s, Draft.new title tag = .ok d₀ ∧ d₀.build es = d ∧ s₀.build es = s ∧
      d.schema = s ∧ s.Consistent ∧ d.Linked ∧
      (∀ p ∈ d.patterns, ∀ r ∈ p.rules,
        d.forest.environment r.level = s.environment (p.pattern d.forest) (r.rule d.forest)) ∧
      (∀ e error, s.edit e = .error error → d.apply e = (.error error, d)) ∧
      (∀ e s', s.edit e = .ok s' → ∃ d', d.apply e = (.ok (), d') ∧ d'.schema = s') ∧
      (∀ ph ∈ s.phases, ∃ ps, s.activePatterns (some ph.id) = .ok ps ∧ ps.Sublist s.patterns ∧
        ∀ id, (ps.map (·.id)).count id = if id ∈ ph.active then 1 else 0) ∧
      ∀ id, (∀ ph ∈ s.phases, ph.id ≠ id) →
        s.activePatterns (some id) = .error (.unknownPhase id) := by
  have hconsistent := (Schema.consistent_new h).build es
  obtain ⟨d₀, hnew, rfl⟩ := Draft.exists_new h
  obtain ⟨hlinked, hschema⟩ := (Draft.linked_new hnew).build es
  refine ⟨d₀, _, _, hnew, rfl, rfl, hschema, hconsistent, hlinked, ?_, ?_, ?_, ?_, ?_⟩
  · rw [← hschema]
    exact fun p hp r hr => hlinked.environment_eq hp hr
  · rw [← hschema]
    exact fun e error herror => (hlinked.agrees e).apply_of_error herror
  · rw [← hschema]
    intro e s' hok
    obtain ⟨d', happly, heq, -⟩ := (hlinked.agrees e).apply_of_ok hok
    exact ⟨d', happly, heq⟩
  · exact fun ph hph => ⟨_, hconsistent.activePatterns_eq hph, List.filter_sublist,
      hconsistent.count_active hph⟩
  · exact fun id hid => Schema.activePatterns_of_unknown hid

/-- edits of which three fail: a second pattern of one id, a variable of the schema that needs a
context, and a phase of a pattern that nobody has added -/
def orderEdits : List Edit :=
  [.addPattern "items", .addPattern "items", .addRule 0 "item",
    .define (.rule 0 0) "quantity" "@qty", .define .schema "limit" "@max",
    .addPhase "quick" ["items", "items"], .addPhase "full" ["items", "notes"]]

theorem consistent_build_orders : ∃ s₀ s ps,
    Schema.new "Orders" "xslt" = .ok s₀ ∧ s₀.build orderEdits = s ∧ s.Consistent ∧
      s.patternIds = ["items"] ∧ s.phases = [⟨"quick", ["items", "items"]⟩] ∧
      s.activePatterns (some "quick") = .ok ps ∧ (ps.map (·.id)).count "items" = 1 ∧
      s.activePatterns (some "full") = .error (.unknownPhase "full") := by
  have htag : Binding.ofTag? "xslt" = some .xpath1 := by decide +kernel
  have hnew : Schema.new "Orders" "xslt" = .ok ⟨"Orders", .xpath1, ∅, [], [], ∅⟩ := by
    unfold Schema.new
    rw [htag]
  have hids : (Schema.build ⟨"Orders", .xpath1, ∅, [], [], ∅⟩ orderEdits).patternIds =
      ["items"] := by
    decide +kernel
  have hphases : (Schema.build ⟨"Orders", .xpath1, ∅, [], [], ∅⟩ orderEdits).phases =
      [⟨"quick", ["items", "items"]⟩] := by
    decide +kernel
  obtain ⟨d₀, d, s, -, -, rfl, -, hconsistent, -, -, -, -, hactive, hunknown⟩ :=
    consistent_build hnew orderEdits
  obtain ⟨ps, hps, -, hcount⟩ := hactive ⟨"quick", ["items", "items"]⟩ (by simp [hphases])
  exact ⟨_, _, ps, hnew, rfl, hconsistent, hids, hphases, hps, hcount "items",
    hunknown "full" (by simp [hphases])⟩

end Rulebook
