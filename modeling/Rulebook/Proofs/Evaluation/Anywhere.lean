import Rulebook.Proofs.Document.Visit
import Rulebook.Proofs.Evaluation.PositionBlind

/-!
# Steps with predicates that decide

A step asks its predicates of what it reaches from one node after the other.  Where the predicates
decide, it does not matter from which node a node is reached, nor how many others are.

* `Matcher.along`               the nodes of an axis that a test accepts;
* `gather_keptAlong_eq_ok_iff`  what a step with such predicates finds from several nodes.

`Step.evaluateWith_of_reach`: **steps along axes that reach the same nodes find the same, and fail
if and only if the other fails.**  What lies in a node are the children of the node and of what lies
in it, so by `evaluateSteps_anywhere_child` the abbreviation `//` stands for a step to the
descendants.
-/

set_option autoImplicit false

namespace Rulebook

def Matcher.along (m : Matcher) (d : Document) (axis : Axis) (n : Node) : List Node :=
  (d.along n axis).filter (m.accepts d axis.principal)

theorem Matcher.exists_mem_along {m : Matcher} {d : Document} {axis : Axis} {ns : List Node}
    {k : Node} : (∃ n ∈ ns, k ∈ m.along d axis n) ↔
      (∃ n ∈ ns, k ∈ d.along n axis) ∧ m.accepts d axis.principal k = true := by
  simp only [along, List.mem_filter, ← and_assoc, exists_and_right]

section
variable {inner : Evaluator} {c : Context} {axis : Axis} {m : Matcher} {ps : List Expr}

theorem keptAlong_eq_ok_iff {n : Node} {found : List Node}
    (h : ∀ p ∈ ps, p.Decides inner c (.ofNodes (c.document.along n axis))) :
    keptAlong inner c axis m ps n = .ok found ↔
      (∀ k ∈ m.along c.document axis n, ∃ b, holdAll inner c ps (.node k) = .ok b) ∧
      found = (m.along c.document axis n).filter
        fun k => passes (holdAll inner c ps) (.node k) := by
  have haccepted : ∀ p ∈ ps, p.Decides inner c (.ofNodes (m.along c.document axis n)) :=
    fun p hp => (h p hp).mono (List.map_subset _ (List.filter_subset_self _))
  have happly := toOption_eq_iff.mp (applyPredicates_of_decides haccepted)
  have hpasses : (Value.ofNodes (m.along c.document axis n)).filter (passes (holdAll inner c ps)) =
      Value.ofNodes ((m.along c.document axis n).filter
        fun k => passes (holdAll inner c ps) (.node k)) := List.filter_map
  constructor
  · intro hkept
    obtain ⟨v, hv, rfl⟩ := map_eq_ok_iff.mp hkept
    obtain ⟨hall, rfl⟩ := filterM_eq_ok_iff.mp ((happly v).mp hv)
    refine ⟨fun k hk => hall _ (Value.node_mem_ofNodes.mpr hk), ?_⟩
    rw [hpasses, Value.filterMap_node?_ofNodes]
  · rintro ⟨hall, rfl⟩
    have hv := (happly _).mpr (filterM_eq_ok_iff.mpr ⟨fun i hi => ?_, hpasses.symm⟩)
    · exact map_eq_ok_iff.mpr ⟨_, hv, Value.filterMap_node?_ofNodes _⟩
    · obtain ⟨k, hk, rfl⟩ := List.mem_map.mp hi
      exact hall k hk

/-- **A step whose predicates decide finds what it reaches from some node, the test accepts and the
predicates hold of**; it fails if and only if they fail about something it reaches. -/
theorem gather_keptAlong_eq_ok_iff {ns found : List Node}
    (h : ∀ n ∈ ns, ∀ p ∈ ps, p.Decides inner c (.ofNodes (c.document.along n axis))) :
    gather (keptAlong inner c axis m ps) ns = .ok found ↔
      (∀ k, (∃ n ∈ ns, k ∈ m.along c.document axis n) →
        ∃ b, holdAll inner c ps (.node k) = .ok b) ∧
      Node.Ascending found ∧
      ∀ k, k ∈ found ↔ (∃ n ∈ ns, k ∈ m.along c.document axis n) ∧
        passes (holdAll inner c ps) (.node k) = true := by
  have hmem {found' : List Node} (hfound : gather (keptAlong inner c axis m ps) ns = .ok found')
      (k : Node) : k ∈ found' ↔ (∃ n ∈ ns, k ∈ m.along c.document axis n) ∧
        passes (holdAll inner c ps) (.node k) = true := by
    rw [mem_of_gather hfound]
    constructor
    · rintro ⟨n, hn, part, hpart, hk⟩
      obtain ⟨-, rfl⟩ := (keptAlong_eq_ok_iff (h n hn)).mp hpart
      obtain ⟨hk, hpass⟩ := List.mem_filter.mp hk
      exact ⟨⟨n, hn, hk⟩, hpass⟩
    · rintro ⟨⟨n, hn, hk⟩, hpass⟩
      obtain ⟨part, hpart⟩ := (gather_ok_iff ns).mp ⟨found', hfound⟩ n hn
      obtain ⟨-, rfl⟩ := (keptAlong_eq_ok_iff (h n hn)).mp hpart
      exact ⟨n, hn, _, hpart, List.mem_filter.mpr ⟨hk, hpass⟩⟩
  constructor
  · intro hfound
    refine ⟨?_, ascending_of_gather hfound, hmem hfound⟩
    rintro k ⟨n, hn, hk⟩
    obtain ⟨part, hpart⟩ := (gather_ok_iff ns).mp ⟨found, hfound⟩ n hn
    exact ((keptAlong_eq_ok_iff (h n hn)).mp hpart).1 k hk
  · rintro ⟨hall, hascending, hfound⟩
    have hparts : ∀ n ∈ ns, ∃ part, keptAlong inner c axis m ps n = .ok part := fun n hn =>
      ⟨_, (keptAlong_eq_ok_iff (h n hn)).mpr ⟨fun k hk => hall k ⟨n, hn, hk⟩, rfl⟩⟩
    obtain ⟨found', hfound'⟩ := (gather_ok_iff ns).mpr hparts
    have hsame : found = found' := hascending.eq_of_mem_iff (ascending_of_gather hfound')
      fun k => (hfound k).trans (hmem hfound' k).symm
    rw [hsame]
    exact hfound'

end

section
variable {inner : Evaluator} {c : Context} {ps : List Expr}

/-- **Steps along axes that reach the same nodes find the same where their predicates decide.** -/
theorem Step.evaluateWith_of_reach {axis axis' : Axis} {ns ms : List Node} (test : NodeTest)
    (hprincipal : axis.principal = axis'.principal)
    (hreach : ∀ k, (∃ n ∈ ns, k ∈ c.document.along n axis) ↔
      ∃ n ∈ ms, k ∈ c.document.along n axis')
    (h : ∀ n ∈ ns, ∀ p ∈ ps, p.Decides inner c (.ofNodes (c.document.along n axis)))
    (h' : ∀ n ∈ ms, ∀ p ∈ ps, p.Decides inner c (.ofNodes (c.document.along n axis'))) :
    (Step.evaluateWith inner ⟨axis, test, ps⟩ c ns).toOption =
      (Step.evaluateWith inner ⟨axis', test, ps⟩ c ms).toOption := by
  have haccepted (m : Matcher) (k : Node) : (∃ n ∈ ns, k ∈ m.along c.document axis n) ↔
      ∃ n ∈ ms, k ∈ m.along c.document axis' n := by
    rw [Matcher.exists_mem_along, Matcher.exists_mem_along, hreach, hprincipal]
  rw [Step.evaluateWith_eq, Step.evaluateWith_eq]
  cases test.resolve c.namespaces with
  | error e => rfl
  | ok m =>
    refine toOption_eq_iff.mpr fun found => ?_
    show gather _ ns = .ok found ↔ gather _ ms = .ok found
    rw [gather_keptAlong_eq_ok_iff h, gather_keptAlong_eq_ok_iff h']
    simp only [haccepted]

/-- **A step to the children of all that lies below is a step to the descendants**, where the
predicates decide: it finds the same nodes in the same order, and fails if and only if the other
does. -/
theorem evaluateSteps_anywhere_child (test : NodeTest) {ns : List Node}
    (h : ∀ n ∈ ns, ∀ p ∈ ps, p.Decides inner c (.ofNodes (c.document.descendants n))) :
    (evaluateSteps inner [.anywhere, ⟨.child, test, ps⟩] c ns).toOption =
      (evaluateSteps inner [⟨.descendant, test, ps⟩] c ns).toOption := by
  obtain ⟨ms, hms, hanywhere⟩ := evaluateSteps_anywhere inner c [⟨.child, test, ps⟩] ns
  rw [hanywhere, evaluateSteps_single, evaluateSteps_single]
  have hbelow {k n : Node} (hk : k ∈ c.document.along n .descendantOrSelf) :
      c.document.along k .child ⊆ c.document.descendants n := fun j hj =>
    Document.mem_descendants_iff_children.mpr ⟨k, hk, hj⟩
  refine Step.evaluateWith_of_reach test rfl (fun k => ?_) (fun k hk p hp => ?_) h
  · simp only [hms, ← exists_and_right]
    constructor
    · rintro ⟨m, n, ⟨hn, hm⟩, hk⟩
      exact ⟨n, hn, hbelow hm hk⟩
    · rintro ⟨n, hn, hk⟩
      obtain ⟨m, hm, hk⟩ := Document.mem_descendants_iff_children.mp hk
      exact ⟨m, n, ⟨hn, hm⟩, hk⟩
  · obtain ⟨n, hn, hk⟩ := (hms k).mp hk
    exact (h n hn p hp).mono (List.map_subset _ (hbelow hk))

/-- the items below the root of the invoice and below its element that another element follows and
whose quantity is positive -/
theorem evaluateSteps_anywhere_child_invoice :
    let inner := Expr.evaluateWithin defaultMaxDepth
    let ps : List Expr :=
      [.path .context [⟨.followingSibling, .any, [.call "last" []]⟩],
        .binary (.general .gt) (.path .context [⟨.attribute, .named none "qty", []⟩]) (.number 0)]
    let test : NodeTest := .named none "item"
    let ns : List Node := [⟨[0], 0⟩, .root]
    (∀ n ∈ ns, ∀ p ∈ ps, p.Decides inner wholeInvoice (.ofNodes (invoice.descendants n))) ∧
      (evaluateSteps inner [.anywhere, ⟨.child, test, ps⟩] wholeInvoice ns).toOption =
        (evaluateSteps inner [⟨.descendant, test, ps⟩] wholeInvoice ns).toOption ∧
      (evaluateSteps inner [⟨.descendant, test, ps⟩] wholeInvoice ns).toOption =
        some [⟨[0, 0], 0⟩] := by
  intro inner ps test ns
  have hdecides : ∀ n ∈ ns, ∀ p ∈ ps,
      p.Decides inner wholeInvoice (.ofNodes (invoice.descendants n)) := by decide +kernel
  exact ⟨hdecides, evaluateSteps_anywhere_child test hdecides, by decide +kernel⟩

end

end Rulebook
