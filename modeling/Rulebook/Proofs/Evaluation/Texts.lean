import Rulebook.Proofs.Document.Visit
import Rulebook.Proofs.Evaluation.Continuation

/-!
# The text in a node

There are three ways to the text in the root or in an element: from the children and what is in
them, from all that lies in the node, and through an expression for the text below it.

* `Document.gathered`   the text of the children that are text or elements, and so on down;
* `Document.isText`     what the text in a node consists of;
* `Tree.withoutNotes`   trees without comments and processing instructions.

`stringValue_of_text`: **all three ways give the string value, and comments and processing
instructions have no part in it.**
-/

set_option autoImplicit false

namespace Rulebook

/-! ## trees -/

namespace Tree

def kind : Tree → NodeKind
  | element .. => .element
  | text _ => .text
  | comment _ => .comment
  | instruction .. => .instruction

/-- trees with all comments and processing instructions in them left out -/
def withoutNotes : List Tree → List Tree
  | [] => []
  | element name attributes children :: ts =>
    element name attributes (withoutNotes children) :: withoutNotes ts
  | text content :: ts => text content :: withoutNotes ts
  | comment _ :: ts => withoutNotes ts
  | instruction _ _ :: ts => withoutNotes ts

/-- what is left out has no text -/
theorem forestText_withoutNotes (ts : List Tree) : forestText (withoutNotes ts) = forestText ts := by
  induction ts using withoutNotes.induct with
  | case1 => rw [withoutNotes]
  | case2 ts name attributes children ihchildren ih =>
    rw [withoutNotes, forestText, forestText, textContent, textContent, ihchildren, ih]
  | case3 ts content ih => rw [withoutNotes, forestText, forestText, ih]
  | case4 ts content ih => rw [withoutNotes, ih, forestText, textContent, String.empty_append]
  | case5 ts target content ih =>
    rw [withoutNotes, ih, forestText, textContent, String.empty_append]

end Tree

/-! ## strings of some nodes -/

/-- the strings of those nodes that are picked, one after the other -/
def Node.joined (picked : Node → Bool) (string : Node → String) (ns : List Node) : String :=
  String.join ((ns.filter picked).map string)

namespace Node

variable {picked : Node → Bool} {string : Node → String} {n : Node}

theorem joined_append (ns ms : List Node) :
    joined picked string (ns ++ ms) = joined picked string ns ++ joined picked string ms := by
  unfold joined
  rw [List.filter_append, List.map_append, String.join_append]

theorem joined_cons (n : Node) (ns : List Node) :
    joined picked string (n :: ns) = joined picked string [n] ++ joined picked string ns :=
  joined_append [n] ns

theorem joined_singleton (h : picked n = true) : joined picked string [n] = string n := by
  unfold joined
  rw [List.filter_cons_of_pos h, List.filter_nil, List.map_singleton, String.join_cons,
    String.join_nil, String.append_empty]

theorem joined_of_not_picked (h : picked n = false) : joined picked string [n] = "" := by
  unfold joined
  rw [List.filter_cons_of_neg (Bool.eq_false_iff.mp h)]
  rfl

end Node

namespace Document

variable {d : Document} {n : Node} {path : List Nat} {t : Tree}

/-! ## the two traversals -/

def isText (d : Document) (n : Node) : Bool := d.kind n == .text

/-- what adds to the text of the node it lies in -/
def isContent (d : Document) (n : Node) : Bool := d.kind n == .text || d.kind n == .element

/-- the text in the root or an element comes from the children, everything else has it of itself -/
def gathered (d : Document) (n : Node) : String :=
  match d.kind n with
  | .root | .element =>
    String.join (((d.children n).filter d.isContent).attach.map fun m => d.gathered m.1)
  | _ => d.stringValue n
termination_by sizeOf (d.below n.path)
decreasing_by
  all_goals exact sizeOf_below_lt (List.mem_filter.mp m.2).1

theorem gathered_eq (h : d.kind n = .root ∨ d.kind n = .element) :
    d.gathered n = Node.joined d.isContent d.gathered (d.children n) := by
  have hmap (ns : List Node) : (ns.attach.map fun m => d.gathered m.1) = ns.map d.gathered := by
    show ns.attach.map (d.gathered ∘ Subtype.val) = _
    rw [← List.map_map, List.attach_map_subtype_val]
  rw [gathered]
  rcases h with h | h <;> · rw [h]; exact congrArg String.join (hmap _)

theorem kind_of_tree? (h : d.tree? path = some t) : d.kind ⟨path, 0⟩ = t.kind := by
  cases path with
  | nil => cases h
  | cons i path => cases t <;> simp [kind, Tree.kind, Node.isAttribute, h]

theorem stringValue_of_text? {content : String} (h : d.tree? path = some (.text content)) :
    d.stringValue ⟨path, 0⟩ = content := by
  cases path with
  | nil => cases h
  | cons i path => simp [stringValue, Node.isAttribute, h]

theorem gathered_of_text? {content : String} (h : d.tree? path = some (.text content)) :
    d.gathered ⟨path, 0⟩ = content := by
  have hkind : d.kind ⟨path, 0⟩ = .text := kind_of_tree? h
  rw [gathered, hkind, stringValue_of_text? h]

/-- the strings of the branches of a tree are its text if each of them has the text of its tree -/
theorem joined_branches_of_forall {picked : Node → Bool} {string : Node → String} {ts : List Tree}
    {i : Nat} (h : ∀ t ∈ ts, ∀ {path : List Nat}, d.tree? path = some t →
      Node.joined picked string [⟨path, 0⟩] = t.textContent)
    (hts : (d.below path).drop i = ts) :
    Node.joined picked string ((List.range' i ts.length).map fun j => ⟨j :: path, 0⟩) =
      Tree.forestText ts := by
  induction ts generalizing i with
  | nil => rfl
  | cons t ts ih =>
    obtain ⟨ht, hrest⟩ := tree?_of_drop hts
    obtain ⟨hfirst, hothers⟩ := List.forall_mem_cons.mp h
    rw [List.length_cons, List.range'_succ, List.map_cons, Node.joined_cons, hfirst ht,
      ih hothers hrest, Tree.forestText]

/-- what a tree adds to the text gathered from above is the text in it -/
theorem joined_gathered_of_tree? (h : d.tree? path = some t) :
    Node.joined d.isContent d.gathered [⟨path, 0⟩] = t.textContent := by
  induction t using Tree.induction generalizing path with
  | step t ih =>
    have hkind : d.kind ⟨path, 0⟩ = t.kind := kind_of_tree? h
    have hcontent : d.isContent ⟨path, 0⟩ = (t.kind == .text || t.kind == .element) := by
      unfold isContent
      rw [hkind]
    cases t with
    | element name attributes children =>
      -- its children are the branches at its path, and each of them adds the text in it
      have hbelow : (d.below path).drop 0 = children := below_of_tree? h
      have hchildren := joined_branches_of_forall ih hbelow
      rw [← List.range_eq_range'] at hchildren
      rw [Node.joined_singleton hcontent, gathered_eq (.inr hkind), children_eq rfl,
        below_of_tree? h]
      exact hchildren
    | text content => rw [Node.joined_singleton hcontent, gathered_of_text? h, Tree.textContent]
    | comment _ | instruction _ _ => rw [Node.joined_of_not_picked hcontent, Tree.textContent]

theorem joined_subforest_of_forall {ts : List Tree} {i : Nat}
    (h : ∀ t ∈ ts, ∀ {path : List Nat}, d.tree? path = some t →
      Node.joined d.isText d.stringValue (t.subtree path) = t.textContent)
    (hts : (d.below path).drop i = ts) :
    Node.joined d.isText d.stringValue (Tree.subforest path i ts) = Tree.forestText ts := by
  induction ts generalizing i with
  | nil => rfl
  | cons t ts ih =>
    obtain ⟨ht, hrest⟩ := tree?_of_drop hts
    obtain ⟨hfirst, hothers⟩ := List.forall_mem_cons.mp h
    rw [Tree.subforest, Node.joined_append, hfirst ht, ih hothers hrest, Tree.forestText]

/-- the text in a tree is that of the text nodes in it -/
theorem joined_subtree_of_tree? (h : d.tree? path = some t) :
    Node.joined d.isText d.stringValue (t.subtree path) = t.textContent := by
  induction t using Tree.induction generalizing path with
  | step t ih =>
    have hbelow : (d.below path).drop 0 = t.children := below_of_tree? h
    have htext : d.isText ⟨path, 0⟩ = (t.kind == .text) := by
      unfold isText
      rw [kind_of_tree? h]
    rw [Tree.subtree_eq, Node.joined_cons, joined_subforest_of_forall ih hbelow]
    -- the tree itself comes first, and is text only if nothing lies in it
    cases t with
    | text content =>
      rw [Node.joined_singleton htext, stringValue_of_text? h, Tree.textContent]
      exact String.append_empty
    | element _ _ _ | comment _ | instruction _ _ =>
      rw [Node.joined_of_not_picked htext, String.empty_append]
      rfl

/-! ## the text in a node -/

/-- what something lies in is no attribute, and its string value is the text of what lies in it -/
theorem stringValue_of_kind (h : d.kind n = .root ∨ d.kind n = .element) :
    n.isAttribute = false ∧ d.stringValue n = Tree.forestText (d.below n.path) := by
  obtain ⟨path, slot⟩ := n
  cases slot with
  | succ i => rcases h with h | h <;> cases h
  | zero =>
    refine ⟨rfl, ?_⟩
    cases path with
    | nil => rfl
    | cons i path =>
      cases ht : d.tree? (i :: path) with
      | none => simp [kind, Node.isAttribute, ht] at h
      | some t =>
        rw [kind_of_tree? ht] at h
        cases t with
        | element name attributes children =>
          simp [stringValue, Node.isAttribute, ht, below_of_tree? ht, Tree.children]
        | text _ | comment _ | instruction _ _ => rcases h with h | h <;> cases h

theorem joined_children (h : n.isAttribute = false) :
    Node.joined d.isContent d.gathered (d.children n) = Tree.forestText (d.below n.path) := by
  rw [children_eq h, List.range_eq_range']
  exact joined_branches_of_forall (fun _ _ => joined_gathered_of_tree?) List.drop_zero

theorem joined_descendants (h : n.isAttribute = false) :
    Node.joined d.isText d.stringValue (d.descendants n) = Tree.forestText (d.below n.path) := by
  unfold descendants
  rw [if_neg (Bool.eq_false_iff.mp h)]
  exact joined_subforest_of_forall (fun _ _ => joined_subtree_of_tree?) List.drop_zero

end Document

/-! ## the expression -/

/-- the text below a node -/
def Expr.textBelow : Expr := .path .context [⟨.descendant, .kind .text, []⟩]

theorem Expr.parse_textBelow : Expr.parse "descendant::text()" = .ok textBelow := by
  have hstep : Step.Normal ⟨.descendant, .kind .text, []⟩ :=
    ⟨trivial, fun _ hp => absurd hp List.not_mem_nil⟩
  have hnormal : textBelow.Normal :=
    .of_context (List.cons_ne_nil _ _) (List.forall_mem_singleton.mpr hstep)
  exact parse_of_readable (hnormal.readBack default _ (Nat.le_refl _)).1

/-- what is found from one node in document order is left as it is -/
theorem gather_single {find : Node → Except EvalError (List Node)} {n : Node} {found : List Node}
    (h : find n = .ok found) (hfound : Node.Ascending found) : gather find [n] = .ok found := by
  obtain ⟨all, hall⟩ := (gather_ok_iff [n]).mpr (List.forall_mem_singleton.mpr ⟨found, h⟩)
  have hsame : all = found := (ascending_of_gather hall).eq_of_mem_iff hfound fun k => by
    simp only [mem_of_gather hall, List.mem_singleton, exists_eq_left, h, Except.ok.injEq,
      exists_eq_left']
  rw [hall, hsame]

/-- **The value of the expression is the text nodes below the context node, in document order.** -/
theorem Expr.evaluate_textBelow {c : Context} {n : Node} (h : c.item = .node n) :
    textBelow.evaluate c =
      .ok (.ofNodes ((c.document.descendants n).filter c.document.isText)) := by
  have hstart (inner : Evaluator) : Origin.context.evaluateWith inner c = .ok [n] := by
    rw [Origin.evaluateWith, Context.node_eq, h]
    rfl
  have hkept (inner : Evaluator) : keptAlong inner c .descendant (.kind .text) [] n =
      .ok ((c.document.descendants n).filter c.document.isText) := by
    unfold keptAlong
    rw [applyPredicates]
    exact congrArg Except.ok (Value.filterMap_node?_ofNodes _)
  have hsteps (inner : Evaluator) :
      evaluateSteps inner [⟨.descendant, .kind .text, []⟩] c [n] =
        .ok ((c.document.descendants n).filter c.document.isText) := by
    rw [evaluateSteps_single, Step.evaluateWith_eq]
    exact gather_single (hkept inner) ((Document.ascending_descendants c.document n).filter _)
  rw [Expr.evaluate_eq, textBelow, Expr.evaluateWith_path_of_not_self fun _ _ _ => rfl]
  exact bind_eq_ok_iff.mpr ⟨[n], hstart _, bind_eq_ok_iff.mpr ⟨_, hsteps _, rfl⟩⟩

namespace Document

variable {d : Document} {n : Node}

/-- **The string value of the root or an element is the text in it, whichever way one takes to it.**
It is what is gathered from the children that are text or elements, the string values of all text
nodes among the node and what lies in it, and the string values of the nodes that
`descendant::text()` selects about it.  Two such nodes, of one document or of two, in which the same
lies but for comments and processing instructions have the same string value. -/
theorem stringValue_of_text (h : d.kind n = .root ∨ d.kind n = .element) :
    d.stringValue n = d.gathered n ∧
    d.stringValue n =
      String.join (((d.descendantsOrSelf n).filter fun m => d.kind m == .text).map d.stringValue) ∧
    (∃ e, Expr.parse "descendant::text()" = .ok e ∧
      ∀ c : Context, c.document = d → c.item = .node n →
        ∃ ms, e.evaluate c = .ok (.ofNodes ms) ∧
          (∀ m, m ∈ ms ↔ m ∈ d.descendants n ∧ d.kind m = .text) ∧
          d.stringValue n = String.join (ms.map d.stringValue)) ∧
    ∀ (d' : Document) (n' : Node), d'.kind n' = .root ∨ d'.kind n' = .element →
      Tree.withoutNotes (d.below n.path) = Tree.withoutNotes (d'.below n'.path) →
      d.stringValue n = d'.stringValue n' := by
  obtain ⟨htree, hvalue⟩ := stringValue_of_kind h
  have hbelow : d.stringValue n = Node.joined d.isText d.stringValue (d.descendants n) := by
    rw [joined_descendants htree, hvalue]
  refine ⟨?_, ?_, ⟨_, Expr.parse_textBelow, ?_⟩, fun d' n' h' hsame => ?_⟩
  · rw [gathered_eq h, joined_children htree, hvalue]
  · have hself : d.isText n = false := by
      unfold isText
      rcases h with h | h <;> · rw [h]; rfl
    rw [hbelow]
    unfold descendantsOrSelf
    exact congrArg (fun ns : List Node => String.join (ns.map d.stringValue))
      (List.filter_cons_of_neg (Bool.eq_false_iff.mp hself)).symm
  · rintro c rfl hitem
    refine ⟨_, Expr.evaluate_textBelow hitem, fun m => ?_, hbelow⟩
    rw [List.mem_filter]
    exact and_congr_right fun _ => beq_iff_eq
  · rw [hvalue, (stringValue_of_kind h').2, ← Tree.forestText_withoutNotes, hsame,
      Tree.forestText_withoutNotes]

/-- the root of the invoice, with a comment and a note below it -/
theorem stringValue_of_text_invoice :
    (invoice.kind .root = .root ∨ invoice.kind .root = .element) ∧
    invoice.gathered .root = "WidgetGadgetpaid" ∧
    (Expr.textBelow.evaluate wholeInvoice).toOption.map (·.filterMap Item.node?) =
      some [⟨[0, 0, 0], 0⟩, ⟨[0, 1, 0], 0⟩, ⟨[0, 3, 0], 0⟩] := by
  have hkind : invoice.kind .root = .root ∨ invoice.kind .root = .element := .inl rfl
  obtain ⟨hgathered, -⟩ := stringValue_of_text hkind
  refine ⟨hkind, ?_, by decide +kernel⟩
  rw [← hgathered]
  decide +kernel

end Document

end Rulebook
