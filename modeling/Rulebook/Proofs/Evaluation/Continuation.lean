import Rulebook.Proofs.Evaluation.Limits
import Rulebook.Proofs.Evaluation.Reading
import Rulebook.Proofs.Evaluation.Steps
import Rulebook.Proofs.Expr.Normality

/-!
# Paths that go on

Steps behind a path in parentheses are read as further steps of that path, so no path begins with
another one.  Where `.` alone is about a literal, the path has a value without having nodes; but
then there is nothing to go on from, neither for the path nor behind it.

* `Expr.evaluateWith_path_append`  a path with more steps, and these steps from the path;
* `parse_continued`                the text of an expression in parentheses with steps behind it.

`evaluate_continued`: **a path with steps behind it is read as one path, and this has the value that
the steps have from its nodes.**
-/

set_option autoImplicit false

namespace Rulebook

open Text Grammar

/-! ## evaluation -/

section
variable {inner : Evaluator} {c : Context} {origin : Origin} {steps more : List Step}

/-- a path about nodes -/
theorem Expr.evaluateWith_path_of_not_self
    (h : ∀ a, origin = .context → c.item = .atomic a → isSelfStep steps = false) :
    (Expr.path origin steps).evaluateWith inner c = (do
      let start ← origin.evaluateWith inner c
      let ns ← evaluateSteps inner steps c start
      return .ofNodes ns) := by
  rw [evaluateWith_path]
  cases origin with
  | root | value => rfl
  | context =>
    cases hitem : c.item with
    | node n => rfl
    | atomic a =>
      rw [h a rfl hitem]

theorem isSelfStep_append (hsteps : steps ≠ []) (hmore : more ≠ []) :
    isSelfStep (steps ++ more) = false := by
  obtain ⟨s, ss, rfl⟩ := List.exists_cons_of_ne_nil hsteps
  obtain ⟨t, ts, rfl⟩ := List.exists_cons_of_ne_nil hmore
  cases ss <;> simp [isSelfStep]

/-- **A path with more steps has the value of these steps from the nodes of the path**, or both
fail. -/
theorem Expr.evaluateWith_path_append (hsteps : origin = .context → steps ≠ [])
    (hmore : more ≠ []) :
    ((Expr.path origin (steps ++ more)).evaluateWith inner c).toOption =
      ((Expr.path (.value (.path origin steps)) more).evaluateWith inner c).toOption := by
  have hvalue : (Expr.path (.value (.path origin steps)) more).evaluateWith inner c = (do
      let start ← (Expr.path origin steps).evaluateWith inner c >>= Value.nodes
      let ns ← evaluateSteps inner more c start
      return .ofNodes ns) := by
    refine evaluateWith_path_of_not_self fun _ h _ => ?_
    cases h
  rw [evaluateWith_path_of_not_self fun _ h _ => isSelfStep_append (hsteps h) hmore, hvalue]
  by_cases hself : ∃ a, origin = .context ∧ c.item = .atomic a ∧ isSelfStep steps = true
  · -- the value of `.` is no node, and there is none to begin with either
    obtain ⟨a, rfl, hitem, hself⟩ := hself
    rw [Origin.evaluateWith, Context.node_eq, evaluateWith_path, hitem, hself]
    rfl
  · have hpath : (Expr.path origin steps).evaluateWith inner c = _ :=
      evaluateWith_path_of_not_self fun a horigin hitem => Bool.eq_false_iff.mpr
        fun h => hself ⟨a, horigin, hitem, h⟩
    rw [hpath]
    simp only [evaluateSteps_append]
    cases origin.evaluateWith inner c with
    | error e => rfl
    | ok start =>
      show ((evaluateSteps inner steps c start >>= _) >>= _).toOption =
        (((evaluateSteps inner steps c start >>= _) >>= _) >>= _).toOption
      cases evaluateSteps inner steps c start with
      | error e => rfl
      | ok ns =>
        show _ = ((Value.ofNodes ns).nodes >>= _).toOption
        rw [Value.nodes_ofNodes]
        rfl

end

/-! ## reading -/

/-- steps behind an expression in parentheses are read as what continues it -/
theorem parse_continued (spelling : Spelling) {e : Expr} {more : List Step} (he : e.Normal)
    (hne : more ≠ []) (hmore : ∀ s ∈ more, s.Normal) :
    Expr.parse ((Expr.path (.value e) more).render spelling) = .ok (e.continued more) := by
  have htest : ∀ s ∈ more, s.test.Lexical := fun s hs => (hmore s hs).test
  have hps : ∀ s ∈ more, ∀ p ∈ s.predicates, p.ReadBack spelling := fun s hs p hp =>
    ((hmore s hs).predicates p hp).readBack spelling
  exact parse_of_readable ((he.readBack spelling).readable_continued hne htest hps (Nat.le_refl _))

/-- **Steps behind a path in parentheses may be taken for steps of the path.**  Whatever path comes
of reading a text, as a whole or somewhere in it: the text of the path in parentheses with more
steps behind it is read as the path with these steps, and in every context this has the value that
the steps have from the nodes of the path, or both fail. -/
theorem evaluate_continued {source : String} {e : Expr} {origin : Origin} {steps more : List Step}
    (h : Expr.parse source = .ok e) (hpath : Expr.path origin steps ∈ e.parts true)
    (hmore : more ≠ []) :
    (∀ spelling, (∀ s ∈ more, s.Normal) →
      Expr.parse ((Expr.path (.value (.path origin steps)) more).render spelling) =
        .ok (.path origin (steps ++ more))) ∧
    ∀ c, ((Expr.path origin (steps ++ more)).evaluate c).toOption =
      ((Expr.path (.value (.path origin steps)) more).evaluate c).toOption := by
  have hnormal : (Expr.path origin steps).Normal :=
    (normal_of_read? (read?_of_parse h)).of_mem_parts hpath
  obtain ⟨-, hsteps, -⟩ := Expr.normal_path_iff.mp hnormal
  refine ⟨fun spelling => parse_continued spelling hnormal hmore, fun c => ?_⟩
  rw [Expr.evaluate_eq, Expr.evaluate_eq]
  exact Expr.evaluateWith_path_append hsteps hmore

/-- the quantities of all items -/
theorem evaluate_continued_invoice :
    let steps : List Step := [.anywhere, ⟨.child, .named none "item", []⟩]
    let more : List Step := [⟨.attribute, .named none "qty", []⟩]
    let items : Expr := .path .root steps
    Expr.parse "/descendant-or-self::node()/child::item" = .ok items ∧
      items ∈ items.parts true ∧ more ≠ [] ∧
      Expr.parse "(/descendant-or-self::node()/child::item)/attribute::qty" =
        .ok (.path .root (steps ++ more)) ∧
      ((Expr.path .root (steps ++ more)).evaluate wholeInvoice).toOption =
        ((Expr.path (.value items) more).evaluate wholeInvoice).toOption ∧
      ((Expr.path .root (steps ++ more)).evaluate wholeInvoice).toOption.map
        (·.filterMap Item.node?) = some [⟨[0, 0], 2⟩, ⟨[1, 0], 2⟩] := by
  intro steps more items
  have hnamed (axis : Axis) {name : String} (h : IsName name.toList) :
      Step.Normal ⟨axis, .named none name, []⟩ := by
    refine ⟨⟨fun q hq => ?_, h⟩, fun _ hp => absurd hp List.not_mem_nil⟩
    cases hq
  have hitem : IsName "item".toList := ⟨rfl, rfl⟩
  have hqty : IsName "qty".toList := ⟨rfl, rfl⟩
  have hnormal : items.Normal := .of_root (List.forall_mem_cons.mpr
    ⟨Step.normal_anywhere, List.forall_mem_singleton.mpr (hnamed .child hitem)⟩)
  have hparse : Expr.parse "/descendant-or-self::node()/child::item" = .ok items :=
    parse_of_readable (hnormal.readBack default _ (Nat.le_refl _)).1
  have hpart : items ∈ items.parts true := Expr.mem_parts_self true items
  have hne : more ≠ [] := List.cons_ne_nil _ _
  obtain ⟨hread, hvalue⟩ := evaluate_continued hparse hpart hne
  exact ⟨hparse, hpart, hne, hread default (List.forall_mem_singleton.mpr (hnamed .attribute hqty)),
    hvalue wholeInvoice, by decide +kernel⟩

end Rulebook
