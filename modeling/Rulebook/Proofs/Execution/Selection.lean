import Rulebook.Proofs.Evaluation.Agreement
import Rulebook.Proofs.Evaluation.Steps
import Rulebook.Proofs.Execution.Blocks

/-!
# Rule contexts as patterns

A rule is about the nodes that match its context: a relative path matches wherever in the document
it begins, an absolute one matches what it leads to.  The compiler anchors the relative paths at the
root and the result is evaluated there once.

* `Expr.branches`    the branches of a union;
* `Expr.isPattern`   a union of paths that begin at the root or at the context item;
* `Run.beginnings`   the nodes that a branch is tried at;
* `Combines`         an outcome is the nodes of some others together, or fails with one of them.

`select_of_isPattern`: **the nodes of a rule are those that a branch leads to from one of its
beginnings, in document order, and selecting fails if and only if a branch fails at one.**
-/

set_option autoImplicit false

namespace Rulebook

/-! ## patterns -/

namespace Expr

/-- the branches of a union, also of one inside another -/
def branches : Expr → List Expr
  | .binary .union left right => left.branches ++ right.branches
  | e => [e]

/-- a path without an expression that it begins with -/
def isPlainPath : Expr → Bool
  | .path (.value _) _ => false
  | .path _ _ => true
  | _ => false

def isPattern (e : Expr) : Bool := e.branches.all isPlainPath

end Expr

namespace Run

/-- the nodes that a branch is tried at: a relative path everywhere below the root of the run -/
def beginnings (run : Run) (branch : Expr) : List Node :=
  if branch.isRelativePath then run.document.along run.root .descendantOrSelf else [run.root]

/-- the context of a rule at a node; the current item is the root of the run -/
def contextAt (run : Run) (p : Pattern) (r : Rule) (n : Node) : Context :=
  (run.context p r run.root 1 1).focus (.node n) 1 1

end Run

/-! ## outcomes together -/

/-- an outcome is the nodes of some others together, or all of it fails as one of them does -/
inductive Combines (x : Except EvalError Value) (parts : List (Except EvalError Value)) : Prop
  | found {ns} (value : x = .ok (.ofNodes ns)) (all : ∀ y ∈ parts, ∃ v, y = .ok v)
    (mem : ∀ n, n ∈ ns ↔ ∃ y ∈ parts, ∃ v, y = .ok v ∧ Item.node n ∈ v)
  | failed {e} (error : x = .error e) (part : ∃ y ∈ parts, ∃ e, y = .error e)

namespace Combines

theorem congr {x : Except EvalError Value} {parts parts' : List (Except EvalError Value)}
    (h : Combines x parts) (hmem : ∀ y, y ∈ parts' ↔ y ∈ parts) : Combines x parts' := by
  cases h with
  | found value all mem =>
    exact .found value (fun y hy => all y ((hmem y).mp hy)) fun n => by simp only [mem, hmem]
  | failed error part =>
    obtain ⟨y, hy, hye⟩ := part
    exact .failed error ⟨y, (hmem y).mpr hy, hye⟩

theorem union {x y : Except EvalError Value} {xs ys : List (Except EvalError Value)}
    (hx : Combines x xs) (hy : Combines y ys) :
    Combines (x >>= fun v => y >>= fun w => Value.union v w) (xs ++ ys) := by
  cases hx with
  | failed error part =>
    obtain ⟨z, hz, hze⟩ := part
    exact .failed (by rw [error]; rfl) ⟨z, List.mem_append_left _ hz, hze⟩
  | @found ns value all mem =>
    cases hy with
    | failed error part =>
      obtain ⟨z, hz, hze⟩ := part
      exact .failed (by rw [value, error]; rfl) ⟨z, List.mem_append_right _ hz, hze⟩
    | @found ms value' all' mem' =>
      have hunion : Value.union (.ofNodes ns) (.ofNodes ms) =
          .ok (.ofNodes (Node.inOrder (ns ++ ms))) := by
        unfold Value.union
        rw [Value.nodes_ofNodes, Value.nodes_ofNodes]
        rfl
      refine .found (by rw [value, value']; exact hunion) ?_ fun n => ?_
      · intro z hz
        exact (List.mem_append.mp hz).elim (all z) (all' z)
      · rw [Node.mem_inOrder, List.mem_append, mem, mem']
        simp only [List.mem_append, or_and_right, exists_or]

/-- what steps find from several nodes -/
theorem steps (inner : Evaluator) (c : Context) (ss : List Step) {ns : List Node} (hne : ns ≠ []) :
    Combines ((evaluateSteps inner ss c ns).map .ofNodes)
      (ns.map fun n => (evaluateSteps inner ss c [n]).map .ofNodes) := by
  have hsteps := evaluateSteps_distributes inner c ss
  cases h : evaluateSteps inner ss c ns with
  | ok found =>
    refine .found rfl ?_ fun k => ?_
    · intro y hy
      obtain ⟨n, hn, rfl⟩ := List.mem_map.mp hy
      obtain ⟨part, hpart⟩ := (hsteps.ok_iff_of_ne_nil hne).mp ⟨found, h⟩ n hn
      exact ⟨.ofNodes part, by rw [hpart]; rfl⟩
    · rw [hsteps.mem_iff h]
      constructor
      · rintro ⟨n, hn, part, hpart, hk⟩
        exact ⟨_, List.mem_map.mpr ⟨n, hn, rfl⟩, .ofNodes part, by rw [hpart]; rfl,
          Value.node_mem_ofNodes.mpr hk⟩
      · rintro ⟨y, hy, v, hv, hk⟩
        obtain ⟨n, hn, rfl⟩ := List.mem_map.mp hy
        obtain ⟨part, hpart, rfl⟩ := map_eq_ok_iff.mp hv
        exact ⟨n, hn, part, hpart, Value.node_mem_ofNodes.mp hk⟩
  | error e =>
    refine .failed rfl ?_
    by_contra hno
    have hall : ∀ n ∈ ns, ∃ part, evaluateSteps inner ss c [n] = .ok part := by
      intro n hn
      cases hpart : evaluateSteps inner ss c [n] with
      | ok part => exact ⟨part, rfl⟩
      | error e => exact absurd ⟨_, List.mem_map.mpr ⟨n, hn, rfl⟩, e, by rw [hpart]; rfl⟩ hno
    obtain ⟨found, hfound⟩ := (hsteps.ok_iff_of_ne_nil hne).mpr hall
    rw [h] at hfound
    cases hfound

end Combines

/-! ## anchored paths -/

section
variable (inner : Evaluator) (c : Context)

/-- a relative path from a node -/
theorem Expr.evaluateWith_path_focus (ss : List Step) (n : Node) :
    (Expr.path .context ss).evaluateWith inner (c.focus (.node n) 1 1) =
      (evaluateSteps inner ss c [n]).map .ofNodes := by
  rw [Expr.evaluateWith_path, ← evaluateSteps_focus inner c (.node n) 1 1]
  show (evaluateSteps inner ss (c.focus (.node n) 1 1) [n] >>= fun ns => .ok (Value.ofNodes ns)) = _
  exact bind_ok_eq_map _ _

/-- an absolute path, about whatever item -/
theorem Expr.evaluateWith_path_root (ss : List Step) :
    (Expr.path .root ss).evaluateWith inner c =
      (evaluateSteps inner ss c [c.root]).map .ofNodes := by
  rw [Expr.evaluateWith_path]
  exact bind_ok_eq_map _ _

end

section
variable {inner : Evaluator} {run : Run} {p : Pattern} {r : Rule}

theorem Expr.combines_relative (ss : List Step) :
    Combines ((Expr.path .context ss).anchored.evaluateWith inner (run.context p r run.root 1 1))
      ((run.beginnings (.path .context ss)).map fun n =>
        (Expr.path .context ss).evaluateWith inner (run.contextAt p r n)) := by
  obtain ⟨ns, hns, hanywhere⟩ :=
    evaluateSteps_anywhere inner (run.context p r run.root 1 1) ss [run.root]
  simp only [List.mem_singleton, exists_eq_left] at hns
  have hne : ns ≠ [] := List.ne_nil_of_mem ((hns run.root).mpr List.mem_cons_self)
  have hsteps := Combines.steps inner (run.context p r run.root 1 1) ss hne
  rw [← hanywhere] at hsteps
  have hvalue : (Expr.path .context ss).anchored.evaluateWith inner (run.context p r run.root 1 1) =
      (evaluateSteps inner (.anywhere :: ss) (run.context p r run.root 1 1) [run.root]).map .ofNodes :=
    Expr.evaluateWith_path_root inner (run.context p r run.root 1 1) (.anywhere :: ss)
  have hmem (y : Except EvalError Value) :
      y ∈ (run.beginnings (.path .context ss)).map (fun n =>
        (Expr.path .context ss).evaluateWith inner (run.contextAt p r n)) ↔
      y ∈ ns.map fun n =>
        (evaluateSteps inner ss (run.context p r run.root 1 1) [n]).map Value.ofNodes := by
    simp only [List.mem_map, Run.contextAt, Expr.evaluateWith_path_focus]
    exact exists_congr fun n => and_congr_left fun _ => (hns n).symm
  rw [hvalue]
  exact hsteps.congr hmem

theorem Expr.combines_absolute (ss : List Step) :
    Combines ((Expr.path .root ss).anchored.evaluateWith inner (run.context p r run.root 1 1))
      ((run.beginnings (.path .root ss)).map fun n =>
        (Expr.path .root ss).evaluateWith inner (run.contextAt p r n)) := by
  have hroot : (Expr.path .root ss).evaluateWith inner (run.contextAt p r run.root) =
      (evaluateSteps inner ss (run.context p r run.root 1 1) [run.root]).map .ofNodes := by
    rw [Expr.evaluateWith_path_root]
    unfold Run.contextAt
    rw [evaluateSteps_focus]
    rfl
  show Combines ((Expr.path .root ss).evaluateWith inner (run.context p r run.root 1 1))
    [(Expr.path .root ss).evaluateWith inner (run.contextAt p r run.root)]
  rw [hroot, Expr.evaluateWith_path_root]
  exact Combines.steps inner (run.context p r run.root 1 1) ss (List.cons_ne_nil run.root [])

/-- a pattern that is anchored and evaluated once does what its branches do at their beginnings -/
theorem Expr.combines_anchored (e : Expr) (h : e.isPattern = true) :
    Combines (e.anchored.evaluateWith inner (run.context p r run.root 1 1))
      (e.branches.flatMap fun branch => (run.beginnings branch).map fun n =>
        branch.evaluateWith inner (run.contextAt p r n)) := by
  match e with
  | .binary .union left right =>
    have h' : (left.branches ++ right.branches).all isPlainPath = true := h
    rw [List.all_append, Bool.and_eq_true] at h'
    have hleft := left.combines_anchored h'.1
    have hright := right.combines_anchored h'.2
    show Combines ((Expr.binary .union left.anchored right.anchored).evaluateWith inner _)
      ((left.branches ++ right.branches).flatMap _)
    rw [List.flatMap_append, Expr.evaluateWith]
    · exact hleft.union hright
    all_goals nofun
  | .path .context ss =>
    show Combines _ (List.flatMap _ [Expr.path .context ss])
    rw [List.flatMap_singleton]
    exact Expr.combines_relative ss
  | .path .root ss =>
    show Combines _ (List.flatMap _ [Expr.path .root ss])
    rw [List.flatMap_singleton]
    exact Expr.combines_absolute ss
  | .binary .or _ _ | .binary .and _ _ | .binary (.general _) _ _ | .binary (.value _) _ _
  | .binary .add _ _ | .binary .subtract _ _ | .binary .multiply _ _ | .binary .divide _ _
  | .binary .modulo _ _ | .path (.value _) _ | .literal _ | .number _ | .var _ | .call ..
  | .negate _ | .filter .. | .sequence _ | .conditional .. | .quantified .. | .range .. => cases h

end

/-! ## selecting -/

theorem Expr.exists_evaluateWithin_eq (n : Nat) :
    ∃ inner, Expr.evaluateWithin n = Expr.evaluateWith inner := by
  cases n with
  | zero => exact ⟨_, rfl⟩
  | succ n => exact ⟨_, rfl⟩

theorem Run.select_of_combines {run : Run} {p : Pattern} {r : Rule} {s : Compiled}
    {parts : List (Except EvalError Value)}
    (h : Combines (s.evaluate (run.context p r run.root 1 1)) parts) :
    ((∃ error, run.select p r s = .error error) ↔ ∃ y ∈ parts, ∃ error, y = .error error) ∧
      ∀ ns, run.select p r s = .ok ns → Node.Ascending ns ∧
        ∀ k, k ∈ ns ↔ ∃ y ∈ parts, ∃ v, y = .ok v ∧ Item.node k ∈ v := by
  cases h with
  | failed error part =>
    obtain ⟨error', herror'⟩ := Run.select_of_error error
    refine ⟨⟨fun _ => part, fun _ => ⟨error', herror'⟩⟩, fun ns hns => ?_⟩
    rw [herror'] at hns
    cases hns
  | @found found value all mem =>
    have hselect : run.select p r s = .ok (Node.inOrder found) := by
      rcases Run.select_of_ok value with ⟨ns, hns, hok⟩ | ⟨a, error, ha, -⟩
      · rw [hok, Except.ok.inj ((Value.nodes_ofNodes found).symm.trans
          ((congrArg Value.nodes hns).trans (Value.nodes_ofNodes ns)))]
      · exact absurd ha (Value.not_atomic_mem_ofNodes a found)
    constructor
    · constructor
      · rintro ⟨error, herror⟩
        rw [hselect] at herror
        cases herror
      · rintro ⟨y, hy, error, herror⟩
        obtain ⟨v, hv⟩ := all y hy
        rw [hv] at herror
        cases herror
    · intro ns hns
      rw [hselect] at hns
      cases hns
      refine ⟨Node.ascending_inOrder found, fun k => ?_⟩
      rw [Node.mem_inOrder, mem]

/-- **The nodes of a rule are those that match its context**: those that a branch leads to from one
of its beginnings, each once in document order.  Selecting fails if and only if a branch fails at a
beginning. -/
theorem select_of_isPattern {run : Run} {p : Pattern} {r : Rule} {e : Compiled}
    (he : compile r.context run.schema.binding .full = .ok e) (h : e.expr.isPattern = true) :
    ∃ s, compileSelector r.context run.schema.binding = .ok s ∧
      ((∃ error, run.select p r s = .error error) ↔
        ∃ branch ∈ e.expr.branches, ∃ n ∈ run.beginnings branch, ∃ error,
          branch.evaluate (run.contextAt p r n) = .error error) ∧
      ∀ ns, run.select p r s = .ok ns → Node.Ascending ns ∧
        ∀ k, k ∈ ns ↔ ∃ branch ∈ e.expr.branches, ∃ n ∈ run.beginnings branch, ∃ v,
          branch.evaluate (run.contextAt p r n) = .ok v ∧ Item.node k ∈ v := by
  let s : Compiled := { e with expr := e.expr.anchored }
  have hs : compileSelector r.context run.schema.binding = .ok s := by
    unfold compileSelector
    rw [he]
    rfl
  obtain ⟨inner, hinner⟩ := Expr.exists_evaluateWithin_eq (run.maxDepth - 0)
  have hvalue : s.evaluate (run.context p r run.root 1 1) =
      e.expr.anchored.evaluateWith inner (run.context p r run.root 1 1) :=
    congrFun (congrFun hinner _) _
  have hbranch (branch : Expr) (n : Node) : branch.evaluateWith inner (run.contextAt p r n) =
      branch.evaluate (run.contextAt p r n) :=
    (congrFun (congrFun hinner branch) _).symm
  have hcombines : Combines (e.expr.anchored.evaluateWith inner (run.context p r run.root 1 1))
      (e.expr.branches.flatMap fun branch => (run.beginnings branch).map fun n =>
        branch.evaluateWith inner (run.contextAt p r n)) := e.expr.combines_anchored h
  rw [← hvalue] at hcombines
  have hparts (P : Except EvalError Value → Prop) :
      (∃ y ∈ e.expr.branches.flatMap fun branch => (run.beginnings branch).map fun n =>
        branch.evaluateWith inner (run.contextAt p r n), P y) ↔
      ∃ branch ∈ e.expr.branches, ∃ n ∈ run.beginnings branch,
        P (branch.evaluate (run.contextAt p r n)) := by
    simp only [List.mem_flatMap, List.mem_map, hbranch]
    constructor
    · rintro ⟨_, ⟨branch, hb, n, hn, rfl⟩, hP⟩
      exact ⟨branch, hb, n, hn, hP⟩
    · rintro ⟨branch, hb, n, hn, hP⟩
      exact ⟨_, ⟨branch, hb, n, hn, rfl⟩, hP⟩
  obtain ⟨hfails, hfinds⟩ := Run.select_of_combines hcombines
  refine ⟨s, hs, hfails.trans (hparts _), fun ns hns => ?_⟩
  obtain ⟨hascending, hmem⟩ := hfinds ns hns
  exact ⟨hascending, fun k => (hmem k).trans (hparts _)⟩

/-- the notes, wherever they are, and the second item of the invoice -/
theorem select_of_isPattern_invoice :
    let run := invoiceSchema.runOf invoice .root .all .standard ⟨0, 0, 0⟩
    let p := Pattern.new "notes"
    let r := Rule.new "note | /invoice/item[2]"
    ∃ e s, compile r.context .xpath1 .full = .ok e ∧ e.expr.isPattern = true ∧
      compileSelector r.context .xpath1 = .ok s ∧
      run.select p r s = .ok [⟨[1, 0], 0⟩, ⟨[3, 0], 0⟩] ∧
      ∀ k, k ∈ [⟨[1, 0], 0⟩, ⟨[3, 0], 0⟩] ↔ ∃ branch ∈ e.expr.branches,
        ∃ n ∈ run.beginnings branch, ∃ v,
          branch.evaluate (run.contextAt p r n) = .ok v ∧ Item.node k ∈ v := by
  intro run p r
  obtain ⟨e, he, hpattern⟩ : ∃ e, compile r.context .xpath1 .full = .ok e ∧
      e.expr.isPattern = true := exists_ok_of_any (by decide +kernel)
  obtain ⟨s, hs, hselect⟩ : ∃ s, compileSelector r.context .xpath1 = .ok s ∧
      decide ((run.select p r s).toOption = some [⟨[1, 0], 0⟩, ⟨[3, 0], 0⟩]) = true :=
    exists_ok_of_any (by decide +kernel)
  have hok : run.select p r s = .ok [⟨[1, 0], 0⟩, ⟨[3, 0], 0⟩] :=
    eq_ok_of_toOption (of_decide_eq_true hselect)
  obtain ⟨s', hs', -, hmem⟩ := @select_of_isPattern run p r e he hpattern
  cases hs.symm.trans hs'
  exact ⟨e, s, he, hpattern, hs, hok, (hmem _ hok).2⟩

end Rulebook
