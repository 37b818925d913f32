import Mathlib.Data.List.SplitBy
import Rulebook.Document.Order

/-!
# Document order is a linear order

Nodes are compared by their paths from the root down, and by their slots on one path.

* `compare_eq`       the comparison as a lexicographic one;
* `Ascending`        lists of nodes in strict document order;
* `Row.members`      the nodes that a row was made of.

`ascending_inOrder`, `mem_inOrder`: **putting nodes in document order gives an ascending list of the
same nodes**, and by `Ascending.eq_of_mem_iff` there is no other.
-/

set_option autoImplicit false

namespace Rulebook.Node

/-! ## the comparison -/

theorem compareLevel_concat (i j : Nat) : ∀ {p q : List Nat}, p.length = q.length →
    compareLevel (p ++ [i]) (q ++ [j]) = (Ord.compare i j).then (compareLevel p q)
  | [], [], _ => by
    show Ordering.then .eq (Ord.compare i j) = (Ord.compare i j).then .eq
    cases Ord.compare i j <;> rfl
  | k :: p, l :: q, h => by
    show (compareLevel (p ++ [i]) (q ++ [j])).then (Ord.compare k l) = _
    rw [compareLevel_concat i j (Nat.succ_injective h), Ordering.then_assoc]
    rfl

theorem compareLevel_nil (p : List Nat) : compareLevel p [] = .eq := by
  cases p <;> rfl

theorem comparePaths_concat (i j : Nat) (p q : List Nat) :
    comparePaths (p ++ [i]) (q ++ [j]) = (Ord.compare i j).then (comparePaths p q) := by
  have hp : (p ++ [i]).drop (p.length + 1 - (q.length + 1)) = p.drop (p.length - q.length) ++ [i] := by
    rw [Nat.add_sub_add_right, List.drop_append_of_le_length (Nat.sub_le _ _)]
  have hq : (q ++ [j]).drop (q.length + 1 - (p.length + 1)) = q.drop (q.length - p.length) ++ [j] := by
    rw [Nat.add_sub_add_right, List.drop_append_of_le_length (Nat.sub_le _ _)]
  have hlength : (p.drop (p.length - q.length)).length = (q.drop (q.length - p.length)).length := by
    rw [List.length_drop, List.length_drop]
    omega
  have hdepth : Ord.compare (p.length + 1) (q.length + 1) = Ord.compare p.length q.length := by
    simp only [Nat.compare_eq_ite_lt, Nat.add_lt_add_iff_right]
  unfold comparePaths
  rw [List.length_append, List.length_append, List.length_singleton, List.length_singleton, hp, hq,
    compareLevel_concat i j hlength, hdepth, Ordering.then_assoc]

/-- paths are compared from the root down -/
theorem comparePaths_reverse : ∀ p q : List Nat,
    comparePaths p.reverse q.reverse = List.compareLex Ord.compare p q
  | [], [] => rfl
  | [], j :: q => by
    rw [List.compareLex_nil_cons, comparePaths, List.reverse_nil, List.drop_nil, List.length_reverse]
    exact Nat.compare_eq_lt.mpr (Nat.succ_pos _)
  | i :: p, [] => by
    rw [List.compareLex_cons_nil, comparePaths, List.reverse_nil, List.drop_nil, List.length_reverse,
      compareLevel_nil]
    exact Nat.compare_eq_gt.mpr (Nat.succ_pos _)
  | i :: p, j :: q => by
    rw [List.reverse_cons, List.reverse_cons, comparePaths_concat, comparePaths_reverse p q,
      List.compareLex_cons_cons]

theorem compare_eq :
    compare = compareLex (compareOn fun n => n.path.reverse) (compareOn fun n => n.slot) := by
  funext a b
  show (comparePaths a.path b.path).then _ =
    (List.compareLex Ord.compare a.path.reverse b.path.reverse).then _
  rw [← comparePaths_reverse, List.reverse_reverse, List.reverse_reverse]
  rfl

instance : Std.TransCmp compare := by
  rw [compare_eq]
  infer_instance

instance : Std.LawfulEqCmp compare where
  eq_of_compare {a b} h := by
    rw [compare_eq] at h
    obtain ⟨hpath, hslot⟩ := Ordering.then_eq_eq.mp h
    have hpath : a.path.reverse = b.path.reverse := Std.LawfulEqOrd.eq_of_compare hpath
    have hpath := List.reverse_injective hpath
    have hslot : a.slot = b.slot := Std.LawfulEqOrd.eq_of_compare hslot
    cases a
    cases b
    cases hpath
    cases hslot
    rfl

theorem before_iff {a b : Node} : a.before b = true ↔ a.compare b = .lt := Ordering.isLT_iff_eq_lt

theorem before_trans {a b c : Node} (hab : a.before b = true) (hbc : b.before c = true) :
    a.before c = true :=
  before_iff.mpr (Std.TransCmp.lt_trans (before_iff.mp hab) (before_iff.mp hbc))

theorem not_before_self (a : Node) : a.before a ≠ true := by
  intro h
  have hself : a.compare a = .eq := Std.ReflCmp.compare_self
  rw [before_iff, hself] at h
  cases h

/-! ## ascending lists -/

/-- in strict document order -/
def Ascending (ns : List Node) : Prop := ns.Pairwise fun a b => a.before b = true

theorem ascending_nil : Ascending [] := List.Pairwise.nil

theorem ascending_cons {n : Node} {ns : List Node} :
    Ascending (n :: ns) ↔ (∀ m ∈ ns, n.before m = true) ∧ Ascending ns := List.pairwise_cons

theorem ascending_singleton (n : Node) : Ascending [n] := List.pairwise_singleton _ n

theorem Ascending.nodup {ns : List Node} (h : Ascending ns) : ns.Nodup :=
  h.imp fun hab => by
    rintro rfl
    exact not_before_self _ hab

/-- an ascending list is determined by its nodes -/
theorem Ascending.eq_of_mem_iff {ns ms : List Node} (hn : Ascending ns) (hm : Ascending ms)
    (h : ∀ n, n ∈ ns ↔ n ∈ ms) : ns = ms := by
  have hperm : ns.Perm ms := (List.perm_ext_iff_of_nodup hn.nodup hm.nodup).mpr h
  refine hperm.eq_of_pairwise (fun a b _ _ hab hba => ?_) hn hm
  exact absurd (before_trans hab hba) (not_before_self a)

/-! ## merging -/

section
variable {n : Node} {ns : List Node} {rest : List Node → List Node}

theorem mem_among (hrest : ∀ ms k, k ∈ rest ms ↔ k ∈ ns ∨ k ∈ ms) :
    ∀ (ms : List Node) (k : Node), k ∈ among n rest ms ↔ k ∈ n :: ns ∨ k ∈ ms
  | [], k => by simp [among, hrest]
  | m :: ms, k => by
    have ih := mem_among hrest ms k
    rw [among]
    cases h : n.compare m with
    | lt =>
      simp only [List.mem_cons, hrest]
      tauto
    | eq =>
      obtain rfl := Std.LawfulEqCmp.eq_of_compare h
      simp only [List.mem_cons, hrest]
      tauto
    | gt =>
      simp only [List.mem_cons, ih]
      tauto

theorem ascending_among (hmem : ∀ ms k, k ∈ rest ms ↔ k ∈ ns ∨ k ∈ ms)
    (hrest : ∀ ms, Ascending ms → Ascending (rest ms)) (hn : ∀ k ∈ ns, n.before k = true) :
    ∀ {ms : List Node}, Ascending ms → Ascending (among n rest ms)
  | [], h => by
    refine ascending_cons.mpr ⟨fun k hk => ?_, hrest [] h⟩
    exact ((hmem [] k).mp hk).elim (hn k) (absurd · List.not_mem_nil)
  | m :: ms, h => by
    obtain ⟨hm, hms⟩ := ascending_cons.mp h
    rw [among]
    cases hc : n.compare m with
    | lt =>
      have hnm := before_iff.mpr hc
      refine ascending_cons.mpr ⟨fun k hk => ?_, hrest _ h⟩
      rcases (hmem _ k).mp hk with hk | hk
      · exact hn k hk
      · rcases List.mem_cons.mp hk with rfl | hk
        · exact hnm
        · exact before_trans hnm (hm k hk)
    | eq =>
      obtain rfl := Std.LawfulEqCmp.eq_of_compare hc
      exact ascending_cons.mpr
        ⟨fun k hk => ((hmem _ k).mp hk).elim (hn k) (hm k), hrest _ hms⟩
    | gt =>
      have hmn := before_iff.mpr (Std.OrientedCmp.gt_iff_lt.mp hc)
      refine ascending_cons.mpr ⟨fun k hk => ?_, ascending_among hmem hrest hn hms⟩
      rcases (mem_among hmem ms k).mp hk with hk | hk
      · rcases List.mem_cons.mp hk with rfl | hk
        · exact hmn
        · exact before_trans hmn (hn k hk)
      · exact hm k hk

end

theorem mem_merge : ∀ (ns ms : List Node) (k : Node), k ∈ merge ns ms ↔ k ∈ ns ∨ k ∈ ms
  | [], ms, k => by simp [merge]
  | _ :: ns, ms, k => mem_among (mem_merge ns) ms k

theorem ascending_merge : ∀ {ns ms : List Node}, Ascending ns → Ascending ms →
    Ascending (merge ns ms)
  | [], _, _, hm => hm
  | _ :: ns, _, hn, hm =>
    ascending_among (mem_merge ns) (fun _ => ascending_merge (ascending_cons.mp hn).2)
      (ascending_cons.mp hn).1 hm

/-! ## rows -/

namespace Row

/-- the nodes in a row, in no order -/
def members (row : Row) : List Node := row.flatMap (·.getD [])

/-- all parts are ascending -/
def Sound (row : Row) : Prop := ∀ part ∈ row, Ascending (part.getD [])

theorem mem_carry : ∀ (row : Row) (ns : List Node) (k : Node),
    k ∈ members (carry ns row) ↔ k ∈ ns ∨ k ∈ members row
  | [], ns, k => by simp [carry, members]
  | none :: row, ns, k => by simp [carry, members]
  | some ms :: row, ns, k => by
    have ih := mem_carry row (merge ms ns) k
    show k ∈ members (carry (merge ms ns) row) ↔ k ∈ ns ∨ k ∈ ms ++ members row
    rw [ih, mem_merge, List.mem_append]
    tauto

theorem Sound.carry : ∀ {row : Row} {ns : List Node}, Sound row → Ascending ns →
    Sound (carry ns row)
  | [], _, _, hn => List.forall_mem_singleton.mpr hn
  | none :: _, _, h, hn => List.forall_mem_cons.mpr ⟨hn, (List.forall_mem_cons.mp h).2⟩
  | some _ :: _, _, h, hn =>
    have ⟨hm, hrow⟩ := List.forall_mem_cons.mp h
    List.forall_mem_cons.mpr ⟨ascending_nil, Sound.carry hrow (ascending_merge hm hn)⟩

theorem mem_foldl_carry (runs : List (List Node)) (k : Node) (row : Row) :
    k ∈ (runs.foldl (fun row run => row.carry run) row).members ↔
      k ∈ members row ∨ k ∈ runs.flatten := by
  induction runs generalizing row with
  | nil => simp
  | cons run runs ih =>
    rw [List.foldl_cons, ih, mem_carry, List.flatten_cons, List.mem_append]
    tauto

theorem Sound.foldl_carry {runs : List (List Node)} (hruns : ∀ run ∈ runs, Ascending run)
    {row : Row} (h : Sound row) : Sound (runs.foldl (fun row run => row.carry run) row) := by
  induction runs generalizing row with
  | nil => exact h
  | cons run runs ih =>
    obtain ⟨hrun, hruns⟩ := List.forall_mem_cons.mp hruns
    exact ih hruns (h.carry hrun)

theorem mem_add (row : Row) (ns : List Node) (k : Node) :
    k ∈ members (row.add ns) ↔ k ∈ members row ∨ k ∈ ns := by
  rw [add, mem_foldl_carry, List.flatten_splitBy]

theorem Sound.add {row : Row} (h : Sound row) (ns : List Node) : Sound (row.add ns) := by
  refine h.foldl_carry fun run hrun => ?_
  have htrans : Trans (fun a b : Node => a.before b = true) (fun a b => a.before b = true)
    fun a b => a.before b = true := ⟨before_trans⟩
  exact (List.isChain_of_mem_splitBy hrun).pairwise

theorem mem_foldl_merge (row : Row) (k : Node) (all : List Node) :
    k ∈ row.foldl (fun all part => merge (part.getD []) all) all ↔ k ∈ all ∨ k ∈ members row := by
  induction row generalizing all with
  | nil => simp [members]
  | cons part row ih =>
    rw [List.foldl_cons, ih, mem_merge]
    show _ ↔ k ∈ all ∨ k ∈ part.getD [] ++ members row
    rw [List.mem_append]
    tauto

theorem mem_nodes (row : Row) (k : Node) : k ∈ row.nodes ↔ k ∈ members row := by
  simp [nodes, mem_foldl_merge]

theorem Sound.nodes {row : Row} (h : Sound row) : Ascending row.nodes := by
  have hfold : ∀ {all : List Node}, Ascending all →
      Ascending (row.foldl (fun all part => merge (part.getD []) all) all) := by
    induction row with
    | nil => exact id
    | cons part row ih =>
      intro all hall
      obtain ⟨hpart, hrow⟩ := List.forall_mem_cons.mp h
      exact ih hrow (ascending_merge hpart hall)
  exact hfold ascending_nil

end Row

theorem mem_inOrder (ns : List Node) (k : Node) : k ∈ inOrder ns ↔ k ∈ ns := by
  rw [inOrder, Row.mem_nodes, Row.mem_add]
  simp [Row.members]

theorem ascending_inOrder (ns : List Node) : Ascending (inOrder ns) :=
  Row.Sound.nodes (Row.Sound.add (fun _ h => absurd h List.not_mem_nil) ns)

end Rulebook.Node
