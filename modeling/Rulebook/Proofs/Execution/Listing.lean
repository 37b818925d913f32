import Rulebook.Proofs.Execution.Blocks

/-!
# Listed assertions and reported results

`Schema.assertions` lists what a run is asked about, and a run reports under the ids of what it is
asked about, but for a rule that cannot be run: its one result stands for all its assertions.

`ids_results_execute`: **a run without a filter reports exactly the listed ids if and only if every
rule can be run**, or has nothing that its refusal could hide.
-/

set_option autoImplicit false

namespace Rulebook

/-! ## lists of blocks -/

section
variable {α β : Type} {f g : α → List β}

theorem length_flatMap_le {l : List α} (h : ∀ x ∈ l, (f x).length ≤ (g x).length) :
    (l.flatMap f).length ≤ (l.flatMap g).length := by
  induction l with
  | nil => exact Nat.le_refl 0
  | cons x l ih =>
    obtain ⟨hx, hl⟩ := List.forall_mem_cons.mp h
    rw [List.flatMap_cons, List.flatMap_cons, List.length_append, List.length_append]
    exact Nat.add_le_add hx (ih hl)

/-- blocks that are nowhere longer than others join to the same list only if they are the same -/
theorem flatMap_eq_flatMap_iff {l : List α} (h : ∀ x ∈ l, (f x).length ≤ (g x).length) :
    l.flatMap f = l.flatMap g ↔ ∀ x ∈ l, f x = g x := by
  induction l with
  | nil => exact ⟨fun _ _ hx => absurd hx List.not_mem_nil, fun _ => rfl⟩
  | cons x l ih =>
    obtain ⟨hx, hl⟩ := List.forall_mem_cons.mp h
    rw [List.flatMap_cons, List.flatMap_cons, List.forall_mem_cons, ← ih hl]
    constructor
    · intro heq
      have hlength := congrArg List.length heq
      rw [List.length_append, List.length_append] at hlength
      have hrest := length_flatMap_le hl
      exact List.append_inj heq (by omega)
    · rintro ⟨hhead, hrest⟩
      rw [hhead, hrest]

end

/-! ## the ids of a block -/

namespace Run

theorem id_resultOf (run : Run) (p : Pattern) (r : Rule) (a : Assertion) (ns : List Node) :
    (run.resultOf p r a ns).id = a.id := by
  obtain ⟨total, pass, message, error, h⟩ := run.resultOf_shape p r a ns
  rw [h]
  rfl

variable {run : Run} {p : Pattern} {r : Rule}

/-- a rule that can be run reports what it is asked -/
theorem ids_block_of_not_refuses (h : ¬ run.Refuses p r) :
    (run.block p r).map (·.id) = (r.assertions.filter run.filter).map (·.id) := by
  rcases run.prepare_cases p r with ⟨hrefuses, -⟩ | ⟨-, ns, -, hok⟩
  · exact absurd hrefuses h
  · rw [block_of_ok hok, List.map_map]
    exact List.map_congr_left fun a _ => run.id_resultOf p r a ns

/-- a rule that cannot be run reports itself -/
theorem ids_block_of_refuses (h : run.Refuses p r) {a : Assertion} {as : List Assertion}
    (hacc : r.assertions.filter run.filter = a :: as) :
    (run.block p r).map (·.id) = [ruleResultId] := by
  rcases run.prepare_cases p r with ⟨-, error, herr⟩ | ⟨hnot, -⟩
  · unfold block
    rw [herr, hacc]
    rfl
  · exact absurd h hnot

theorem ids_block_of_silent (h : r.assertions.filter run.filter = []) :
    (run.block p r).map (·.id) = [] := by
  unfold block
  rw [h]
  cases run.prepare p r <;> rfl

theorem length_ids_block_le (run : Run) (p : Pattern) (r : Rule) :
    ((run.block p r).map (·.id)).length ≤
      ((r.assertions.filter run.filter).map (·.id)).length := by
  by_cases hrefuses : run.Refuses p r
  · cases hacc : r.assertions.filter run.filter with
    | nil =>
      rw [ids_block_of_silent hacc, List.length_nil]
      exact Nat.zero_le _
    | cons a as =>
      rw [ids_block_of_refuses hrefuses hacc, List.length_singleton]
      exact Nat.le_add_left 1 _
  · exact Nat.le_of_eq (congrArg List.length (ids_block_of_not_refuses hrefuses))

/-- the ids of a refused rule are those of its assertions only by chance -/
theorem ids_block_eq_iff (run : Run) (p : Pattern) (r : Rule) :
    (run.block p r).map (·.id) = (r.assertions.filter run.filter).map (·.id) ↔
      r.assertions.filter run.filter = [] ∨ ¬ run.Refuses p r ∨
        ∃ a, r.assertions.filter run.filter = [a] ∧ a.id = ruleResultId := by
  constructor
  · intro heq
    by_cases hrefuses : run.Refuses p r
    · cases hacc : r.assertions.filter run.filter with
      | nil => exact .inl rfl
      | cons a as =>
        rw [ids_block_of_refuses hrefuses hacc, hacc, List.map_cons] at heq
        obtain ⟨hid, has⟩ := List.cons.inj heq
        rw [List.map_eq_nil_iff.mp has.symm]
        exact .inr (.inr ⟨a, rfl, hid.symm⟩)
    · exact .inr (.inl hrefuses)
  · rintro (hnil | hnot | ⟨a, hone, hid⟩)
    · rw [ids_block_of_silent hnil, hnil]
      rfl
    · exact ids_block_of_not_refuses hnot
    · by_cases hrefuses : run.Refuses p r
      · rw [ids_block_of_refuses hrefuses hone, hone, ← hid]
        rfl
      · exact ids_block_of_not_refuses hrefuses

end Run

/-! ## the ids of a run -/

theorem Schema.assertions_eq_flatMap (s : Schema) :
    s.assertions = (rulesOf s.patterns).flatMap fun x => x.2.assertions := by
  unfold assertions rulesOf
  rw [List.flatMap_assoc]
  simp only [List.flatMap_map]

theorem Schema.forall_mem_rulesOf {ps : List Pattern} {P : Pattern → Rule → Prop} :
    (∀ x ∈ rulesOf ps, P x.1 x.2) ↔ ∀ p ∈ ps, ∀ r ∈ p.rules, P p r := by
  unfold rulesOf
  constructor
  · intro h p hp r hr
    exact h (p, r) (List.mem_flatMap.mpr ⟨p, hp, List.mem_map_of_mem hr⟩)
  · intro h x hx
    obtain ⟨p, hp, hx⟩ := List.mem_flatMap.mp hx
    obtain ⟨r, hr, rfl⟩ := List.mem_map.mp hx
    exact h p hp r hr

/-- which runs report what they are asked about, whatever their filter -/
theorem Run.ids_results_start_eq_iff {run : Run} (hstop : run.stopOnFirstFailure = false)
    (ps : List Pattern) :
    ((run.start ps).results fun _ => false).map (·.id) =
        ((Schema.rulesOf ps).flatMap fun x => x.2.assertions.filter run.filter).map (·.id) ↔
      ∀ p ∈ ps, ∀ r ∈ p.rules,
        r.assertions.filter run.filter = [] ∨ ¬ run.Refuses p r ∨
          ∃ a, r.assertions.filter run.filter = [a] ∧ a.id = ruleResultId := by
  have hlength : ∀ x ∈ Schema.rulesOf ps, ((run.block x.1 x.2).map (·.id)).length ≤
      ((x.2.assertions.filter run.filter).map (·.id)).length :=
    fun x _ => run.length_ids_block_le x.1 x.2
  rw [results_start hstop, List.map_flatMap, List.map_flatMap, flatMap_eq_flatMap_iff hlength,
    ← Schema.forall_mem_rulesOf]
  exact forall₂_congr fun x _ => run.ids_block_eq_iff x.1 x.2

/-- **The ids of the results of a run without a filter are the listed ids if and only if** every
rule has no assertion, or can be run, or has a single assertion that is called like a refusal. -/
theorem ids_results_execute (s : Schema) (d : Document) (root : Node) (now : Time.Instant) :
    ((s.execute d root .all now).results fun _ => false).map (·.id) = s.assertions.map (·.id) ↔
      ∀ p ∈ s.patterns, ∀ r ∈ p.rules,
        r.assertions = [] ∨ ¬ (s.runOf d root .all .standard now).Refuses p r ∨
          ∃ a, r.assertions = [a] ∧ a.id = ruleResultId := by
  have hall (r : Rule) :
      r.assertions.filter (s.runOf d root .all .standard now).filter = r.assertions :=
    List.filter_eq_self.mpr fun _ _ => rfl
  have hstop : (s.runOf d root .all .standard now).stopOnFirstFailure = false := rfl
  have h := Run.ids_results_start_eq_iff hstop s.patterns
  simp only [hall, ← s.assertions_eq_flatMap] at h
  exact h

/-- selectors that compile are not enough: the literal of the notes is no node, and one result
stands for the two assertions about it -/
theorem ids_results_execute_ne_invoice :
    (∀ p ∈ invoiceSchema.patterns, ∀ r ∈ p.rules,
      (compileSelector r.context invoiceSchema.binding).isOk) ∧
    ((invoiceSchema.execute invoice .root .all ⟨0, 0, 0⟩).results fun _ => false).map (·.id) ≠
      invoiceSchema.assertions.map (·.id) := by
  have hstop : (invoiceSchema.runOf invoice .root .all .standard ⟨0, 0, 0⟩).stopOnFirstFailure =
      false := rfl
  have hids : ((invoiceSchema.execute invoice .root .all ⟨0, 0, 0⟩).results fun _ => false).map
      (·.id) = ["quantity", "sku", "RULE", "order"] := by
    refine (congrArg (List.map (·.id)) (Run.results_start hstop _)).trans ?_
    decide +kernel
  refine ⟨by decide +kernel, ?_⟩
  rw [hids]
  decide +kernel

end Rulebook
