import Rulebook.Document.Axis
import Rulebook.Proofs.Document.Axes
import Rulebook.Proofs.Safety.Checked

/-!
# Axes that cannot panic

The axes that count or turn round what they have collected, with their operations checked.  Those
to the nodes before are given the nodes found so far, turn round what they add to them, and read the
two ends of every link.

* `links`                       a list in overlapping pairs;
* `Document.alongChecked`       the nodes along an axis.

`alongChecked_eq`: **no axis panics**, and each gives the nodes that it gives without the checks.
-/

set_option autoImplicit false

namespace Rulebook

open Checked

/-- every two neighbours of a list -/
def links {α : Type} : List α → List (List α)
  | [] => []
  | [_] => []
  | a :: b :: rest => [a, b] :: links (b :: rest)

namespace Document

variable (d : Document)

/-- the attributes of a node, the slot of each being one more than its index -/
def attributesChecked (n : Node) : Checked (List Node) :=
  if n.isAttribute then .ok [] else
  match d.tree? n.path with
  | some t => (List.range t.attributes.length).mapM fun i => do
    let slot ← addCount t.attributes.length i 1
    return ⟨n.path, slot⟩
  | none => .ok []

/-- the siblings before a node, the nearest first, behind what was found so far -/
def addPrecedingSiblings (n : Node) (found : List Node) : Checked (List Node) :=
  if n.isAttribute then .ok found else
  match n.parent? with
  | some p => reverseFrom found.length (found ++ (d.children p).takeWhile (· != n))
  | none => .ok found

/-- what lies in the siblings before the lower end of a link, behind what was found so far -/
def addBesideLink (found link : List Node) : Checked (List Node) := do
  let n ← read link 0
  let p ← read link 1
  if n.isAttribute then return found
  else return found ++ ((d.children p).takeWhile (· != n)).flatMap d.descendantsOrSelf

/-- what comes before a node, the nearest first, behind what was found so far -/
def addPreceding (n : Node) (found : List Node) : Checked (List Node) := do
  let all ← (links n.ancestorsOrSelf).reverse.foldlM d.addBesideLink found
  reverseFrom found.length all

/-- the nodes along an axis, in axis order -/
def alongChecked (n : Node) : Axis → Checked (List Node)
  | .attribute => d.attributesChecked n
  | .precedingSibling => d.addPrecedingSiblings n []
  | .preceding => d.addPreceding n []
  | a => .ok (d.along n a)

variable {d}

/-! ## attributes -/

theorem attributesChecked_eq (n : Node) : d.attributesChecked n = .ok (d.attributes n) := by
  unfold attributesChecked attributes
  cases n.isAttribute with
  | true => rfl
  | false =>
    cases d.tree? n.path with
    | none => rfl
    | some t =>
      refine mapM_eq_ok fun i hi => ?_
      rw [addCount_of_le (List.mem_range.mp hi)]
      rfl

/-! ## siblings -/

/-- counting up to a number goes through those below it -/
theorem takeWhile_range' {i : Nat} (count : Nat) {start : Nat} (h : start ≤ i) :
    (List.range' start count).takeWhile (· != i) =
      (List.range' start count).filter fun k => decide (k < i) := by
  induction count generalizing start with
  | zero => rfl
  | succ count ih =>
    rw [List.range'_succ]
    rcases Nat.eq_or_lt_of_le h with rfl | hlt
    · have hnone : ∀ k ∈ List.range' (start + 1) count, ¬decide (k < start) = true := by
        intro k hk
        have hle := (List.mem_range'_1.mp hk).1
        rw [decide_eq_true_iff]
        omega
      rw [List.takeWhile_cons_of_neg (by simp), List.filter_cons_of_neg (by simp),
        List.filter_eq_nil_iff.mpr hnone]
    · have hne : (start != i) = true := bne_iff_ne.mpr (Nat.ne_of_lt hlt)
      rw [List.takeWhile_cons_of_pos (p := (· != i)) hne,
        List.filter_cons_of_pos (p := fun k => decide (k < i)) (decide_eq_true hlt), ih hlt]

/-- the siblings up to a node are those before it -/
theorem takeWhile_siblings (d : Document) (n : Node) :
    (d.siblings n).takeWhile (· != n) = (d.siblings n).filter (·.before n) := by
  rcases siblings_cases d n with h | ⟨i, path, rfl⟩
  · rw [h]
    rfl
  · have hsame : ((· != (⟨i :: path, 0⟩ : Node)) ∘ fun k => ⟨k :: path, 0⟩) = (· != i) := by
      funext k
      simp [bne, Node.mk.injEq]
    have hbefore : ((fun m : Node => m.before ⟨i :: path, 0⟩) ∘ fun k => ⟨k :: path, 0⟩) =
        fun k => decide (k < i) := by
      funext k
      exact Bool.eq_iff_iff.mpr (before_branch_iff.trans decide_eq_true_iff.symm)
    rw [siblings_cons, List.takeWhile_map, List.filter_map, hsame, hbefore, List.range_eq_range',
      takeWhile_range' _ (Nat.zero_le i)]

theorem siblings_of_parent {n p : Node} (hn : n.isAttribute = false) (hp : n.parent? = some p) :
    d.siblings n = d.children p := by
  unfold siblings
  rw [hn, hp]
  rfl

/-- the children of the parent up to a node -/
theorem takeWhile_children {n p : Node} (hn : n.isAttribute = false) (hp : n.parent? = some p) :
    (d.children p).takeWhile (· != n) = (d.siblings n).filter (·.before n) := by
  rw [← takeWhile_siblings, siblings_of_parent hn hp]

theorem precedingSiblings_eq_nil {n : Node} (h : d.siblings n = []) :
    d.precedingSiblings n = [] := by
  rw [precedingSiblings, h]
  rfl

theorem addPrecedingSiblings_eq (n : Node) (found : List Node) :
    d.addPrecedingSiblings n found = .ok (found ++ d.precedingSiblings n) := by
  unfold addPrecedingSiblings
  cases hn : n.isAttribute with
  | true =>
    rw [if_pos rfl, precedingSiblings_eq_nil (siblings_of_attribute hn), List.append_nil]
  | false =>
    rw [if_neg Bool.false_ne_true]
    cases hp : n.parent? with
    | none =>
      have hnil : d.siblings n = [] := by
        unfold siblings
        rw [hn, hp]
        rfl
      rw [precedingSiblings_eq_nil hnil, List.append_nil]
    | some p =>
      dsimp only
      rw [reverseFrom_append, takeWhile_children hn hp, precedingSiblings]

/-! ## everything before a node -/

/-- what lies in the siblings before a node, in document order -/
def earlierBeside (d : Document) : Node → List Node := d.beside fun m s => s.before m

theorem preceding_eq (n : Node) :
    d.preceding n = (n.ancestorsOrSelf.reverse.flatMap d.earlierBeside).reverse := by
  have hblock : (fun m => (d.precedingSiblings m).reverse.flatMap d.descendantsOrSelf) =
      d.earlierBeside := by
    funext m
    rw [precedingSiblings, List.reverse_reverse]
    rfl
  rw [preceding, hblock]

theorem earlierBeside_of_siblings_eq_nil {n : Node} (h : d.siblings n = []) :
    d.earlierBeside n = [] := by
  unfold earlierBeside beside
  rw [h]
  rfl

theorem addBesideLink_eq {n p : Node} (hp : n.parent? = some p) (found : List Node) :
    d.addBesideLink found [n, p] = .ok (found ++ d.earlierBeside n) := by
  show (if n.isAttribute then _ else _) = _
  cases hn : n.isAttribute with
  | true =>
    rw [if_pos rfl, earlierBeside_of_siblings_eq_nil (siblings_of_attribute hn), List.append_nil]
    rfl
  | false =>
    rw [if_neg Bool.false_ne_true, takeWhile_children hn hp]
    rfl

/-- the links are gone through from the outermost one to that of the node -/
theorem foldlM_links_cons {m p : Node} {rest found : List Node} (hp : m.parent? = some p)
    (h : (links (p :: rest)).reverse.foldlM d.addBesideLink found =
      .ok (found ++ (p :: rest).reverse.flatMap d.earlierBeside)) :
    (links (m :: p :: rest)).reverse.foldlM d.addBesideLink found =
      .ok (found ++ (m :: p :: rest).reverse.flatMap d.earlierBeside) := by
  rw [links, List.reverse_cons, List.foldlM_append, h, List.reverse_cons (a := m),
    List.flatMap_append, List.flatMap_singleton, ← List.append_assoc]
  show (d.addBesideLink _ [m, p] >>= fun all => .ok all) = _
  rw [addBesideLink_eq hp]
  rfl

theorem foldlM_links_around (i : Nat) (path : List Nat) (found : List Node) :
    (links (Node.around (i :: path))).reverse.foldlM d.addBesideLink found =
      .ok (found ++ (Node.around (i :: path)).reverse.flatMap d.earlierBeside) := by
  induction path generalizing i with
  | nil =>
    -- the root has no siblings
    have hroot : d.earlierBeside ⟨[], 0⟩ = [] := earlierBeside_of_siblings_eq_nil rfl
    show Except.ok found = .ok (found ++ [(⟨[], 0⟩ : Node)].flatMap d.earlierBeside)
    rw [List.flatMap_singleton, hroot, List.append_nil]
  | cons j path ih => exact foldlM_links_cons rfl (ih j)

theorem foldlM_links_ancestorsOrSelf (n : Node) (found : List Node) :
    (links n.ancestorsOrSelf).reverse.foldlM d.addBesideLink found =
      .ok (found ++ n.ancestorsOrSelf.reverse.flatMap d.earlierBeside) := by
  rw [Node.ancestorsOrSelf_eq]
  cases hn : n.isAttribute with
  | true =>
    have hparent : n.parent? = some ⟨n.path, 0⟩ := if_pos hn
    exact foldlM_links_cons hparent (foldlM_links_around 0 n.path found)
  | false => exact foldlM_links_around 0 n.path found

theorem addPreceding_eq (n : Node) (found : List Node) :
    d.addPreceding n found = .ok (found ++ d.preceding n) := by
  unfold addPreceding
  rw [foldlM_links_ancestorsOrSelf, preceding_eq]
  exact reverseFrom_append found _

/-! ## all axes -/

/-- **No axis panics.** -/
theorem alongChecked_eq (d : Document) (n : Node) :
    ∀ a : Axis, d.alongChecked n a = .ok (d.along n a)
  | .attribute => attributesChecked_eq n
  | .precedingSibling => addPrecedingSiblings_eq n []
  | .preceding => addPreceding_eq n []
  | .child | .descendant | .descendantOrSelf | .parent | .ancestor | .ancestorOrSelf | .self
  | .followingSibling | .following => rfl

end Document

end Rulebook
