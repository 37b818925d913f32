import Rulebook.Document.Invoice
import Rulebook.Eval.Evaluate
import Rulebook.Proofs.Document.Order

/-!
# Steps from many nodes

A step is made from each node by itself, and what is found from all of them is put together.

* `Distributes`   what a function finds from several nodes is what it finds from each of them;
* `gather`        what is found from each node, put in document order;
* `keptAlong`     the nodes of an axis that a test and predicates keep, from one node.

`evaluateSteps_distributes`: **steps, one after the other, find from several nodes what they find
from each of them, and fail from several nodes if and only if they fail from one of them.**  By
`evaluateSteps_union` they find it in document order and each node once.
-/

set_option autoImplicit false

namespace Rulebook

theorem bind_eq_ok_iff {ε α β : Type} {x : Except ε α} {f : α → Except ε β} {b : β} :
    x >>= f = .ok b ↔ ∃ a, x = .ok a ∧ f a = .ok b := by
  cases x with
  | error e => exact ⟨nofun, nofun⟩
  | ok a => exact ⟨fun h => ⟨a, rfl, h⟩, by rintro ⟨_, h, hf⟩; cases h; exact hf⟩

theorem map_eq_ok_iff {ε α β : Type} {x : Except ε α} {f : α → β} {b : β} :
    x.map f = .ok b ↔ ∃ a, x = .ok a ∧ f a = b := by
  cases x with
  | error e => exact ⟨nofun, nofun⟩
  | ok a => exact ⟨fun h => ⟨a, rfl, by cases h; rfl⟩, by rintro ⟨_, h, rfl⟩; cases h; rfl⟩

theorem bind_ok_eq_map {ε α β : Type} (x : Except ε α) (f : α → β) :
    (x >>= fun a => .ok (f a)) = x.map f := by
  cases x <;> rfl

theorem exists_ok_of_any {ε α : Type} {x : Except ε α} {P : α → Bool}
    (h : x.toOption.any P = true) : ∃ a, x = .ok a ∧ P a = true := by
  cases x with
  | error e => cases h
  | ok a => exact ⟨a, rfl, h⟩

theorem eq_ok_of_toOption {ε α : Type} {x : Except ε α} {a : α} (h : x.toOption = some a) :
    x = .ok a := by
  cases x with
  | error e => cases h
  | ok b => cases h; rfl

/-- outcomes have the same value, or both of them fail -/
theorem toOption_eq_iff {ε α : Type} {x y : Except ε α} :
    x.toOption = y.toOption ↔ ∀ a, x = .ok a ↔ y = .ok a := by
  constructor
  · intro h a
    exact ⟨fun hx => eq_ok_of_toOption (by rw [← h, hx]; rfl),
      fun hy => eq_ok_of_toOption (by rw [h, hy]; rfl)⟩
  · intro h
    cases x with
    | ok a => rw [(h a).mp rfl]
    | error e =>
      cases y with
      | ok a => cases (h a).mpr rfl
      | error e => rfl

/-! ## nodes as values -/

theorem Value.node_mem_ofNodes {n : Node} {ns : List Node} : Item.node n ∈ ofNodes ns ↔ n ∈ ns := by
  constructor
  · intro h
    obtain ⟨m, hm, h⟩ := List.mem_map.mp h
    cases h
    exact hm
  · exact fun h => List.mem_map.mpr ⟨n, h, rfl⟩

theorem Value.nodes_ofNodes (ns : List Node) : nodes (ofNodes ns) = .ok ns := by
  induction ns with
  | nil => rfl
  | cons n ns ih =>
    show nodes (.node n :: ofNodes ns) = _
    rw [nodes_node_cons, ih]
    rfl

theorem Value.filterMap_node?_ofNodes (ns : List Node) :
    (ofNodes ns).filterMap Item.node? = ns := by
  unfold ofNodes
  rw [List.filterMap_map]
  exact List.filterMap_some

/-! ## functions of nodes -/

/-- What a function finds from several nodes is what it finds from each of them.  That it finds
anything from no nodes at all is part of it: a name test may be wrong by itself. -/
structure Distributes (f : List Node → Except EvalError (List Node)) : Prop where
  ok_iff (ns : List Node) : (∃ found, f ns = .ok found) ↔
    (∃ found, f [] = .ok found) ∧ ∀ n ∈ ns, ∃ found, f [n] = .ok found
  mem_iff {ns found : List Node} (h : f ns = .ok found) (k : Node) :
    k ∈ found ↔ ∃ n ∈ ns, ∃ part, f [n] = .ok part ∧ k ∈ part

namespace Distributes

variable {f g : List Node → Except EvalError (List Node)}

theorem nothing_of_nil (h : Distributes f) {found : List Node} (hf : f [] = .ok found) :
    found = [] := by
  refine List.eq_nil_iff_forall_not_mem.mpr fun k hk => ?_
  obtain ⟨n, hn, -⟩ := (h.mem_iff hf k).mp hk
  exact absurd hn List.not_mem_nil

/-- from one node or more there is nothing to ask about none -/
theorem ok_iff_of_ne_nil (h : Distributes f) {ns : List Node} (hne : ns ≠ []) :
    (∃ found, f ns = .ok found) ↔ ∀ n ∈ ns, ∃ found, f [n] = .ok found := by
  refine (h.ok_iff ns).trans ⟨And.right, fun hall => ⟨?_, hall⟩⟩
  obtain ⟨n, hn⟩ := List.exists_mem_of_ne_nil ns hne
  exact ((h.ok_iff [n]).mp (hall n hn)).1

theorem ok : Distributes .ok where
  ok_iff ns := ⟨fun _ => ⟨⟨[], rfl⟩, fun n _ => ⟨[n], rfl⟩⟩, fun _ => ⟨ns, rfl⟩⟩
  mem_iff {ns found} h k := by
    cases h
    constructor
    · exact fun hk => ⟨k, hk, [k], rfl, List.mem_singleton_self k⟩
    · rintro ⟨n, hn, part, h, hk⟩
      cases h
      rwa [List.mem_singleton.mp hk]

theorem bind (hf : Distributes f) (hg : Distributes g) : Distributes fun ns => f ns >>= g where
  ok_iff ns := by
    simp only [bind_eq_ok_iff]
    constructor
    · rintro ⟨found, mid, hmid, hfound⟩
      obtain ⟨⟨_, hnil⟩, hall⟩ := (hf.ok_iff ns).mp ⟨mid, hmid⟩
      obtain ⟨⟨_, hgnil⟩, hgall⟩ := (hg.ok_iff mid).mp ⟨found, hfound⟩
      obtain rfl := hf.nothing_of_nil hnil
      refine ⟨⟨_, _, hnil, hgnil⟩, fun n hn => ?_⟩
      obtain ⟨part, hpart⟩ := hall n hn
      have hpartall : ∀ k ∈ part, ∃ found, g [k] = .ok found := fun k hk =>
        hgall k ((hf.mem_iff hmid k).mpr ⟨n, hn, part, hpart, hk⟩)
      obtain ⟨found', hfound'⟩ := (hg.ok_iff part).mpr ⟨⟨_, hgnil⟩, hpartall⟩
      exact ⟨found', part, hpart, hfound'⟩
    · rintro ⟨⟨_, mid₀, hnil, hgnil⟩, hall⟩
      obtain rfl := hf.nothing_of_nil hnil
      obtain ⟨mid, hmid⟩ := (hf.ok_iff ns).mpr ⟨⟨_, hnil⟩, fun n hn =>
        have ⟨_, part, hpart, _⟩ := hall n hn
        ⟨part, hpart⟩⟩
      have hmidall : ∀ k ∈ mid, ∃ found, g [k] = .ok found := by
        intro k hk
        obtain ⟨n, hn, part, hpart, hk⟩ := (hf.mem_iff hmid k).mp hk
        obtain ⟨found, part', hpart', hfound⟩ := hall n hn
        cases hpart.symm.trans hpart'
        exact ((hg.ok_iff part).mp ⟨found, hfound⟩).2 k hk
      obtain ⟨found, hfound⟩ := (hg.ok_iff mid).mpr ⟨⟨_, hgnil⟩, hmidall⟩
      exact ⟨found, mid, hmid, hfound⟩
  mem_iff {ns found} h k := by
    obtain ⟨mid, hmid, hfound⟩ := bind_eq_ok_iff.mp h
    simp only [bind_eq_ok_iff]
    constructor
    · intro hk
      obtain ⟨m, hm, part, hpart, hk⟩ := (hg.mem_iff hfound k).mp hk
      obtain ⟨n, hn, ms, hms, hm⟩ := (hf.mem_iff hmid m).mp hm
      have hall : ∀ k ∈ ms, ∃ found, g [k] = .ok found := fun k hk =>
        ((hg.ok_iff mid).mp ⟨found, hfound⟩).2 k ((hf.mem_iff hmid k).mpr ⟨n, hn, ms, hms, hk⟩)
      obtain ⟨found', hfound'⟩ := (hg.ok_iff ms).mpr
        ⟨((hg.ok_iff mid).mp ⟨found, hfound⟩).1, hall⟩
      exact ⟨n, hn, found', ⟨ms, hms, hfound'⟩,
        (hg.mem_iff hfound' k).mpr ⟨m, hm, part, hpart, hk⟩⟩
    · rintro ⟨n, hn, found', ⟨ms, hms, hfound'⟩, hk⟩
      obtain ⟨m, hm, part, hpart, hk⟩ := (hg.mem_iff hfound' k).mp hk
      exact (hg.mem_iff hfound k).mpr
        ⟨m, (hf.mem_iff hmid m).mpr ⟨n, hn, ms, hms, hm⟩, part, hpart, hk⟩

end Distributes

/-! ## what is gathered from each node -/

/-- what is found from each of some nodes, in document order -/
def gather (find : Node → Except EvalError (List Node)) (ns : List Node) :
    Except EvalError (List Node) :=
  (ns.foldlM (fun (row : Node.Row) n => (find n).map row.add) []).map Node.Row.nodes

section
variable {find : Node → Except EvalError (List Node)}

theorem foldlM_add_ok_iff (ns : List Node) (row : Node.Row) :
    (∃ row', ns.foldlM (fun (row : Node.Row) n => (find n).map row.add) row = .ok row') ↔
      ∀ n ∈ ns, ∃ found, find n = .ok found := by
  induction ns generalizing row with
  | nil => exact ⟨fun _ _ h => absurd h List.not_mem_nil, fun _ => ⟨row, rfl⟩⟩
  | cons n ns ih =>
    rw [List.foldlM_cons, List.forall_mem_cons]
    cases h : find n with
    | error e => exact ⟨nofun, nofun⟩
    | ok found => exact (ih (row.add found)).trans ⟨fun h => ⟨⟨found, rfl⟩, h⟩, And.right⟩

theorem mem_foldlM_add {ns : List Node} {row row' : Node.Row}
    (h : ns.foldlM (fun (row : Node.Row) n => (find n).map row.add) row = .ok row') (k : Node) :
    k ∈ Node.Row.members row' ↔
      k ∈ Node.Row.members row ∨ ∃ n ∈ ns, ∃ found, find n = .ok found ∧ k ∈ found := by
  induction ns generalizing row with
  | nil =>
    cases h
    simp
  | cons n ns ih =>
    rw [List.foldlM_cons] at h
    cases hn : find n with
    | error e =>
      rw [hn] at h
      cases h
    | ok found =>
      rw [hn] at h
      rw [ih h, Node.Row.mem_add, or_assoc]
      simp [hn]

theorem sound_foldlM_add {ns : List Node} {row row' : Node.Row}
    (h : ns.foldlM (fun (row : Node.Row) n => (find n).map row.add) row = .ok row')
    (hrow : Node.Row.Sound row) : Node.Row.Sound row' := by
  induction ns generalizing row with
  | nil =>
    cases h
    exact hrow
  | cons n ns ih =>
    rw [List.foldlM_cons] at h
    obtain ⟨row₁, hrow₁, h⟩ := bind_eq_ok_iff.mp h
    obtain ⟨found, -, rfl⟩ := map_eq_ok_iff.mp hrow₁
    exact ih h (hrow.add found)

theorem gather_ok_iff (ns : List Node) :
    (∃ found, gather find ns = .ok found) ↔ ∀ n ∈ ns, ∃ found, find n = .ok found := by
  rw [← foldlM_add_ok_iff ns []]
  simp only [gather, map_eq_ok_iff]
  exact ⟨fun ⟨_, row, h, _⟩ => ⟨row, h⟩, fun ⟨row, h⟩ => ⟨_, row, h, rfl⟩⟩

theorem mem_of_gather {ns found : List Node} (h : gather find ns = .ok found) (k : Node) :
    k ∈ found ↔ ∃ n ∈ ns, ∃ part, find n = .ok part ∧ k ∈ part := by
  obtain ⟨row, hrow, rfl⟩ := map_eq_ok_iff.mp h
  rw [Node.Row.mem_nodes, mem_foldlM_add hrow]
  simp [Node.Row.members]

theorem ascending_of_gather {ns found : List Node} (h : gather find ns = .ok found) :
    Node.Ascending found := by
  obtain ⟨row, hrow, rfl⟩ := map_eq_ok_iff.mp h
  exact (sound_foldlM_add hrow fun _ h => absurd h List.not_mem_nil).nodes

theorem gather_distributes (find : Node → Except EvalError (List Node)) :
    Distributes (gather find) := by
  have hsingle (n : Node) : (∃ found, gather find [n] = .ok found) ↔ ∃ found, find n = .ok found :=
    (gather_ok_iff [n]).trans List.forall_mem_singleton
  constructor
  · intro ns
    rw [gather_ok_iff]
    simp only [hsingle]
    exact ⟨fun h => ⟨⟨[], rfl⟩, h⟩, And.right⟩
  · intro ns found h k
    rw [mem_of_gather h]
    constructor
    · rintro ⟨n, hn, part, hpart, hk⟩
      obtain ⟨found', hfound'⟩ := (hsingle n).mpr ⟨part, hpart⟩
      exact ⟨n, hn, found', hfound', (mem_of_gather hfound' k).mpr
        ⟨n, List.mem_singleton_self n, part, hpart, hk⟩⟩
    · rintro ⟨n, hn, found', hfound', hk⟩
      obtain ⟨m, hm, part, hpart, hk⟩ := (mem_of_gather hfound' k).mp hk
      cases List.mem_singleton.mp hm
      exact ⟨n, hn, part, hpart, hk⟩

end

/-! ## steps -/

section
variable (inner : Evaluator) (c : Context)

/-- what a step finds from one node, in the order of its axis -/
def keptAlong (axis : Axis) (m : Matcher) (predicates : List Expr) (n : Node) :
    Except EvalError (List Node) :=
  (applyPredicates inner predicates c
    (.ofNodes ((c.document.along n axis).filter (m.accepts c.document axis.principal)))).map
      (·.filterMap Item.node?)

theorem Step.evaluateWith_eq (axis : Axis) (test : NodeTest) (predicates : List Expr)
    (ns : List Node) :
    Step.evaluateWith inner ⟨axis, test, predicates⟩ c ns =
      test.resolve c.namespaces >>= fun m => gather (keptAlong inner c axis m predicates) ns := by
  rw [Step.evaluateWith]
  refine congrArg (test.resolve c.namespaces >>= ·) (funext fun m => ?_)
  have hfind : (fun (row : Node.Row) n => (do
      let kept ← applyPredicates inner predicates c
        (.ofNodes ((c.document.along n axis).filter (m.accepts c.document axis.principal)))
      return row.add (kept.filterMap Item.node?) : Except EvalError Node.Row)) =
      fun row n => (keptAlong inner c axis m predicates n).map row.add := by
    funext row n
    unfold keptAlong
    cases applyPredicates inner predicates c _ <;> rfl
  rw [hfind]
  exact bind_ok_eq_map _ _

theorem Step.distributes (s : Step) : Distributes (Step.evaluateWith inner s c) := by
  obtain ⟨axis, test, predicates⟩ := s
  have heq : Step.evaluateWith inner ⟨axis, test, predicates⟩ c = fun ns =>
      test.resolve c.namespaces >>= fun m => gather (keptAlong inner c axis m predicates) ns :=
    funext (Step.evaluateWith_eq inner c axis test predicates)
  rw [heq]
  cases test.resolve c.namespaces with
  | error e => exact ⟨fun _ => ⟨nofun, nofun⟩, nofun⟩
  | ok m => exact gather_distributes _

theorem Step.ascending {s : Step} {ns found : List Node}
    (h : s.evaluateWith inner c ns = .ok found) : Node.Ascending found := by
  obtain ⟨axis, test, predicates⟩ := s
  rw [Step.evaluateWith_eq] at h
  obtain ⟨m, -, h⟩ := bind_eq_ok_iff.mp h
  exact ascending_of_gather h

theorem evaluateSteps_nil (ns : List Node) : evaluateSteps inner [] c ns = .ok ns := by
  rw [evaluateSteps]

theorem evaluateSteps_cons (s : Step) (ss : List Step) (ns : List Node) :
    evaluateSteps inner (s :: ss) c ns =
      s.evaluateWith inner c ns >>= evaluateSteps inner ss c := by
  rw [evaluateSteps]

theorem evaluateSteps_append (ss more : List Step) (ns : List Node) :
    evaluateSteps inner (ss ++ more) c ns =
      evaluateSteps inner ss c ns >>= evaluateSteps inner more c := by
  induction ss generalizing ns with
  | nil =>
    rw [evaluateSteps_nil]
    rfl
  | cons s ss ih =>
    rw [List.cons_append, evaluateSteps_cons, evaluateSteps_cons, bind_assoc]
    exact congrArg _ (funext ih)

theorem evaluateSteps_single (s : Step) (ns : List Node) :
    evaluateSteps inner [s] c ns = s.evaluateWith inner c ns := by
  rw [evaluateSteps_cons]
  exact (congrArg _ (funext (evaluateSteps_nil inner c))).trans (bind_pure _)

/-- the abbreviated step leads to every node below some nodes, and cannot fail -/
theorem evaluateSteps_anywhere (ss : List Step) (ns : List Node) :
    ∃ ms, (∀ k, k ∈ ms ↔ ∃ n ∈ ns, k ∈ c.document.along n .descendantOrSelf) ∧
      evaluateSteps inner (.anywhere :: ss) c ns = evaluateSteps inner ss c ms := by
  have hkept (n : Node) : keptAlong inner c .descendantOrSelf (.kind .node) [] n =
      .ok (c.document.along n .descendantOrSelf) := by
    have hall (ms : List Node) :
        ms.filter ((Matcher.kind .node).accepts c.document Axis.descendantOrSelf.principal) = ms :=
      List.filter_eq_self.mpr fun _ _ => rfl
    unfold keptAlong
    rw [applyPredicates, hall]
    exact congrArg Except.ok (Value.filterMap_node?_ofNodes _)
  have hstep : Step.anywhere.evaluateWith inner c ns =
      gather (keptAlong inner c .descendantOrSelf (.kind .node) []) ns :=
    Step.evaluateWith_eq inner c .descendantOrSelf (.kind .node) [] ns
  obtain ⟨ms, hms⟩ : ∃ ms,
      gather (keptAlong inner c .descendantOrSelf (.kind .node) []) ns = .ok ms :=
    (gather_ok_iff ns).mpr fun n _ => ⟨_, hkept n⟩
  refine ⟨ms, fun k => ?_, ?_⟩
  · rw [mem_of_gather hms]
    simp only [hkept, Except.ok.injEq, exists_eq_left']
  · rw [evaluateSteps_cons, hstep, hms]
    rfl

/-- **Steps find from several nodes what they find from each of them.** -/
theorem evaluateSteps_distributes (ss : List Step) : Distributes (evaluateSteps inner ss c) := by
  induction ss with
  | nil =>
    have heq : evaluateSteps inner [] c = .ok := funext (evaluateSteps_nil inner c)
    rw [heq]
    exact .ok
  | cons s ss ih =>
    have heq : evaluateSteps inner (s :: ss) c = fun ns =>
        s.evaluateWith inner c ns >>= evaluateSteps inner ss c :=
      funext (evaluateSteps_cons inner c s ss)
    rw [heq]
    exact (Step.distributes inner c s).bind ih

/-- a path ends in document order; one without steps ends where it begins -/
theorem ascending_of_evaluateSteps {ss : List Step} {ns found : List Node}
    (hn : Node.Ascending ns) (h : evaluateSteps inner ss c ns = .ok found) :
    Node.Ascending found := by
  induction ss generalizing ns with
  | nil =>
    rw [evaluateSteps_nil] at h
    cases h
    exact hn
  | cons s ss ih =>
    rw [evaluateSteps_cons] at h
    obtain ⟨mid, hmid, h⟩ := bind_eq_ok_iff.mp h
    exact ih (Step.ascending inner c hmid) h

/-- **Steps from several nodes, in any order and with repetitions, succeed if and only if they do
from each of them, and then find the union of what they find from each, in document order and each
node once.** -/
theorem evaluateSteps_union {ss : List Step} {ns : List Node} (hss : ss ≠ []) (hns : ns ≠ []) :
    ((∃ found, evaluateSteps inner ss c ns = .ok found) ↔
        ∀ n ∈ ns, ∃ part, evaluateSteps inner ss c [n] = .ok part) ∧
      ∀ found, evaluateSteps inner ss c ns = .ok found → Node.Ascending found ∧
        ∀ k, k ∈ found ↔ ∃ n ∈ ns, ∃ part, evaluateSteps inner ss c [n] = .ok part ∧ k ∈ part := by
  have hdistributes := evaluateSteps_distributes inner c ss
  refine ⟨hdistributes.ok_iff_of_ne_nil hns, fun found hfound => ⟨?_, hdistributes.mem_iff hfound⟩⟩
  -- the nodes need not ascend, but those that the first step finds do
  obtain ⟨s, rest, rfl⟩ := List.exists_cons_of_ne_nil hss
  rw [evaluateSteps_cons] at hfound
  obtain ⟨mid, hmid, hrest⟩ := bind_eq_ok_iff.mp hfound
  exact ascending_of_evaluateSteps inner c (Step.ascending inner c hmid) hrest

/-- the attributes of the next elements, from the items of the invoice, the second one first and
once more -/
theorem evaluateSteps_union_invoice :
    let inner := Expr.evaluateWithin defaultMaxDepth
    let c := Context.new invoice (.node .root) .root (.ofEnvironment []) ∅ ⟨0, 0, 0⟩
    let ss : List Step := [⟨.followingSibling, .any, [.number 1]⟩, ⟨.attribute, .any, []⟩]
    let ns : List Node := [⟨[1, 0], 0⟩, ⟨[0, 0], 0⟩, ⟨[1, 0], 0⟩]
    let found : List Node := [⟨[1, 0], 1⟩, ⟨[1, 0], 2⟩, ⟨[3, 0], 1⟩]
    ss ≠ [] ∧ ns ≠ [] ∧ evaluateSteps inner ss c ns = .ok found ∧
      (∀ n ∈ ns, ∃ part, evaluateSteps inner ss c [n] = .ok part) ∧ Node.Ascending found ∧
      ∀ k, k ∈ found ↔ ∃ n ∈ ns, ∃ part, evaluateSteps inner ss c [n] = .ok part ∧ k ∈ part := by
  intro inner c ss ns found
  have hss : ss ≠ [] := List.cons_ne_nil _ _
  have hns : ns ≠ [] := List.cons_ne_nil _ _
  have hfound : evaluateSteps inner ss c ns = .ok found := eq_ok_of_toOption (by decide +kernel)
  obtain ⟨hok, hunion⟩ := evaluateSteps_union inner c hss hns
  exact ⟨hss, hns, hfound, hok.mp ⟨found, hfound⟩, hunion found hfound⟩

end

/-! ## what steps do not look at -/

section
variable (inner : Evaluator) (c : Context) (item : Item) (position size : Nat)

theorem filterItems_focus (test : Context → Except EvalError Value) (v : Value) (among place : Nat)
    (kept : Value) :
    filterItems test (c.focus item position size) among place v kept =
      filterItems test c among place v kept := by
  induction v generalizing place kept with
  | nil => rfl
  | cons i v ih =>
    rw [filterItems, filterItems]
    exact congrArg _ (funext fun w => ih _ _)

theorem applyPredicates_focus (predicates : List Expr) (v : Value) :
    applyPredicates inner predicates (c.focus item position size) v =
      applyPredicates inner predicates c v := by
  induction predicates generalizing v with
  | nil => rw [applyPredicates, applyPredicates]
  | cons p ps ih =>
    rw [applyPredicates, applyPredicates, filterItems_focus]
    exact congrArg _ (funext ih)

/-- predicates have items and places of their own, so the context item does not matter to steps -/
theorem evaluateSteps_focus (ss : List Step) (ns : List Node) :
    evaluateSteps inner ss (c.focus item position size) ns = evaluateSteps inner ss c ns := by
  induction ss generalizing ns with
  | nil => rw [evaluateSteps_nil, evaluateSteps_nil]
  | cons s ss ih =>
    have hstep : s.evaluateWith inner (c.focus item position size) ns =
        s.evaluateWith inner c ns := by
      obtain ⟨axis, test, predicates⟩ := s
      have hkept (m : Matcher) : keptAlong inner (c.focus item position size) axis m predicates =
          keptAlong inner c axis m predicates := by
        funext n
        unfold keptAlong
        rw [applyPredicates_focus]
        rfl
      rw [Step.evaluateWith_eq, Step.evaluateWith_eq]
      exact congrArg (test.resolve c.namespaces >>= ·) (funext fun m => by rw [hkept])
    rw [evaluateSteps_cons, evaluateSteps_cons, hstep]
    exact congrArg _ (funext ih)

end

end Rulebook
