import Rulebook.Proofs.Expr.Operators
import Rulebook.Proofs.Expr.Parts
import Rulebook.Proofs.Expr.Paths

/-!
# Reading back what was written

* `Expr.ReadBack`      the text of an expression is readable at its level, once nesting may go as
                       deep as the text is long.

`parse_render`: **the text of a normal expression is read as that expression.**
-/

set_option autoImplicit false

namespace Rulebook

open Text Scan Grammar

/-! ## normal parts -/

namespace Expr

theorem Normal.lexical {e : Expr} (h : e.Normal) : e.Lexical := h e (mem_parts_self true e)

theorem Normal.of_mem_children {e x : Expr} (h : e.Normal) (hx : x ∈ e.children) : x.Normal :=
  fun y hy => h y (parts_subset_of_mem_children hx hy)

end Expr

/-! ## lengths -/

theorem length_le_flatMap {α : Type} {f : α → List Char} {xs : List α} {x : α} (h : x ∈ xs) :
    (f x).length ≤ (xs.flatMap f).length := by
  obtain ⟨before, after, rfl⟩ := List.append_of_mem h
  simp only [List.flatMap_append, List.flatMap_cons, List.length_append]
  omega

theorem length_le_joined {separator text : List Char} {texts : List (List Char)}
    (h : text ∈ texts) : text.length ≤ (joined separator texts).length := by
  cases texts with
  | nil => nomatch h
  | cons t ts =>
    rw [joined, List.length_append]
    rcases List.mem_cons.mp h with rfl | h
    · omega
    · have hlen := length_le_flatMap (f := (separator ++ ·)) h
      rw [List.length_append] at hlen
      omega

section
variable (spelling : Spelling)

theorem length_item {es : List Expr} {e : Expr} (h : e ∈ es) :
    (e.textAt spelling .single).length ≤
      (joined [',', ' '] (Expr.itemTexts spelling es)).length := by
  rw [Expr.itemTexts_eq]
  exact length_le_joined (List.mem_map.mpr ⟨e, h, rfl⟩)

theorem length_predicate {ps : List Expr} {p : Expr} (h : p ∈ ps) :
    (p.textAt spelling .sequence).length + 2 ≤ (Expr.predicateText spelling ps).length := by
  have hlen := length_le_flatMap (f := fun p => '[' :: (p.textAt spelling .sequence ++ [']'])) h
  rw [← Expr.predicateText_eq, List.length_cons, List.length_append] at hlen
  exact hlen

theorem length_step {ss : List Step} {s : Step} (h : s ∈ ss) :
    (Expr.predicateText spelling s.predicates).length + 2 ≤
      (joined ['/'] (Expr.stepTexts spelling ss)).length := by
  have htext : (s.text spelling).length ≤ (joined ['/'] (Expr.stepTexts spelling ss)).length := by
    rw [Expr.stepTexts_eq]
    exact length_le_joined (List.mem_map.mpr ⟨s, h, rfl⟩)
  obtain ⟨axis, test, predicates⟩ := s
  simp only [Step.text, List.length_append, List.length_cons] at htext ⊢
  omega

theorem length_clause {cs : List Clause} {c : Clause} (h : c ∈ cs) :
    (c.domain.textAt spelling .single).length ≤
      (joined [',', ' '] (Expr.clauseTexts spelling cs)).length := by
  have htext : (c.text spelling).length ≤
      (joined [',', ' '] (Expr.clauseTexts spelling cs)).length := by
    rw [Expr.clauseTexts_eq]
    exact length_le_joined (List.mem_map.mpr ⟨c, h, rfl⟩)
  obtain ⟨name, domain⟩ := c
  simp only [Clause.text, List.length_append, List.length_cons] at htext
  show (domain.textAt spelling .single).length ≤ _
  unfold Expr.textAt
  omega

end

/-! ## at places -/

theorem BinaryOp.level_ne (op : BinaryOp) {l : Level}
    (h : l ∈ [.whole, .sequence, .range, .sign, .path, .filter, .primary]) : op.level ≠ l := by
  revert h
  rcases op with _ | _ | r | r | _ | _ | _ | _ | _ | _ <;> try cases r
  all_goals cases l <;> decide

section
variable (spelling : Spelling)

/-- readable at its level; behind a chain more operands may follow -/
def Expr.ReadBack (e : Expr) : Prop :=
  ∀ depth, (e.text spelling).length ≤ depth →
    Readable (Grammar.single depth) e.level (e.text spelling) e ∧
      ∀ op : BinaryOp, op.level = e.level →
        Chains (Grammar.single depth) op.level (e.text spelling) e

end

namespace Expr.ReadBack

variable {spelling : Spelling} {e : Expr} {place : Level} {depth : Nat}

/-- away from its own level an expression is as readable as anything tighter -/
theorem readable_next (h : e.ReadBack spelling) (hne : place ≠ e.level)
    (hd : (e.textAt spelling place).length ≤ depth) :
    Readable (Grammar.single depth) place.next (e.textAt spelling place) e := by
  unfold Expr.textAt Level.place at hd ⊢
  split at hd
  · rename_i hle
    rw [if_pos hle]
    exact (h depth hd).1.at_level (Level.next_le_of_ne hle hne)
  · rename_i hle
    rw [if_neg hle]
    simp only [List.length_cons, List.length_append, List.length_nil] at hd
    obtain ⟨depth, rfl⟩ : ∃ n, depth = n + 1 := ⟨depth - 1, by omega⟩
    have hinner := (h depth (by omega)).1.at_level (l := .whole) (Nat.zero_le _)
    exact hinner.parenthesized.at_level (Level.le_primary _)

theorem readable (h : e.ReadBack spelling) (hd : (e.textAt spelling place).length ≤ depth) :
    Readable (Grammar.single depth) place (e.textAt spelling place) e := by
  by_cases hne : place = e.level
  · subst hne
    unfold Expr.textAt Level.place at hd ⊢
    rw [if_pos (Level.le_refl _)] at hd ⊢
    exact (h depth hd).1
  · exact (h.readable_next hne hd).at_looser

theorem chains (h : e.ReadBack spelling) {op : BinaryOp}
    (hd : (e.textAt spelling op.level).length ≤ depth) :
    Chains (Grammar.single depth) op.level (e.textAt spelling op.level) e := by
  by_cases hne : op.level = e.level
  · unfold Expr.textAt Level.place at hd ⊢
    rw [if_pos (hne ▸ Level.le_refl _)] at hd ⊢
    exact (h depth hd).2 op hne
  · exact .of_readable (h.readable_next hne hd)

/-- outside the levels of operators nothing can follow a chain -/
theorem of_readable (hlevel : ∀ op : BinaryOp, op.level ≠ e.level)
    (h : ∀ depth, (e.text spelling).length ≤ depth →
      Readable (Grammar.single depth) e.level (e.text spelling) e) : e.ReadBack spelling :=
  fun depth hd => ⟨h depth hd, fun op hop => absurd hop (hlevel op)⟩

/-! ### each form -/

theorem of_literal {text : String} (h : ¬ ('\'' ∈ text.toList ∧ '"' ∈ text.toList)) :
    (Expr.literal text).ReadBack spelling :=
  of_readable (fun op => op.level_ne (l := .primary) (by decide)) fun _ _ => .of_literal h

theorem of_number {value : Float} (h : IsNumeral value) : (Expr.number value).ReadBack spelling :=
  of_readable (fun op => op.level_ne (l := .primary) (by decide)) fun _ _ =>
    .of_number (spelling.numeral_eq h)

theorem of_var {name : String} (h : IsQualifiedName name) : (Expr.var name).ReadBack spelling :=
  of_readable (fun op => op.level_ne (l := .primary) (by decide)) fun _ _ => .of_reference h

theorem of_call {name : String} {args : List Expr} (hname : IsQualifiedName name)
    (hkind : isKindName name = false) (h : ∀ e ∈ args, e.ReadBack spelling) :
    (Expr.call name args).ReadBack spelling := by
  refine of_readable (fun op => op.level_ne (l := .primary) (by decide)) fun depth hd => ?_
  simp only [Expr.text, List.length_append, List.length_cons] at hd
  obtain ⟨depth, rfl⟩ : ∃ n, depth = n + 1 := ⟨depth - 1, by omega⟩
  have hargs : ∀ e ∈ args, Readable (Grammar.single depth) .single (e.textAt spelling .single) e :=
    fun e he => (h e he).readable (by have := length_item spelling he; omega)
  have hcall := Readable.of_call hname hkind hargs
  rwa [← Expr.itemTexts_eq] at hcall

theorem of_binary {op : BinaryOp} {left right : Expr} (hl : left.ReadBack spelling)
    (hr : right.ReadBack spelling) : (Expr.binary op left right).ReadBack spelling := by
  intro depth hd
  have htext : Expr.text spelling (.binary op left right) =
      left.textAt spelling op.level ++ ' ' :: (op.symbol.toList ++ ' ' ::
        right.textAt spelling op.level.next) := by
    rw [Expr.text]
    rfl
  rw [htext] at hd ⊢
  simp only [List.length_append, List.length_cons] at hd
  have hchains : Chains (Grammar.single depth) op.level (left.textAt spelling op.level) left :=
    hl.chains (by omega)
  have hright : Readable (Grammar.single depth) op.level.next
      (right.textAt spelling op.level.next) right := hr.readable (by omega)
  refine ⟨.of_binary (hl.readable (by omega)) hchains hright, fun op' hop => ?_⟩
  have hop' : op'.level = op.level := hop
  rw [hop']
  exact hchains.link hright

theorem of_negate {operand : Expr} (h : operand.ReadBack spelling) :
    (Expr.negate operand).ReadBack spelling := by
  refine of_readable (fun op => op.level_ne (l := .sign) (by decide)) fun depth hd => ?_
  have htext : Expr.text spelling (.negate operand) = '-' :: operand.textAt spelling .sign := by
    rw [Expr.text]
    rfl
  rw [htext] at hd ⊢
  exact .of_negate (h.readable (Nat.le_of_succ_le hd))

theorem of_range {first last : Expr} (hf : first.ReadBack spelling) (hl : last.ReadBack spelling) :
    (Expr.range first last).ReadBack spelling := by
  refine of_readable (fun op => op.level_ne (l := .range) (by decide)) fun depth hd => ?_
  have htext : Expr.text spelling (.range first last) =
      first.textAt spelling .sum ++ ' ' :: ("to".toList ++ ' ' :: last.textAt spelling .sum) := by
    rw [Expr.text]
    rfl
  rw [htext] at hd ⊢
  simp only [List.length_append, List.length_cons] at hd
  exact .of_range (hf.readable (by omega)) (hl.readable (by omega))

theorem of_filter {base : Expr} {ps : List Expr} (hne : ps ≠ []) (hbase : base.ReadBack spelling)
    (hps : ∀ p ∈ ps, p.ReadBack spelling) : (Expr.filter base ps).ReadBack spelling := by
  refine of_readable (fun op => op.level_ne (l := .filter) (by decide)) fun depth hd => ?_
  have htext : Expr.text spelling (.filter base ps) =
      base.textAt spelling .primary ++ Expr.predicateText spelling ps := by
    rw [Expr.text]
    rfl
  rw [htext, List.length_append] at hd
  obtain ⟨p, qs, hpq⟩ := List.exists_cons_of_ne_nil hne
  have hp : (p.textAt spelling .sequence).length + 2 ≤ (Expr.predicateText spelling ps).length :=
    length_predicate spelling (hpq ▸ List.mem_cons_self)
  obtain ⟨depth, rfl⟩ : ∃ n, depth = n + 1 := ⟨depth - 1, by omega⟩
  refine .of_filter (hbase.readable (by omega)) hne fun q hq => (hps q hq).readable ?_
  have hq' := length_predicate spelling hq
  omega

theorem readable_predicates {ss : List Step}
    (hps : ∀ s ∈ ss, ∀ p ∈ s.predicates, p.ReadBack spelling)
    (hd : (joined ['/'] (Expr.stepTexts spelling ss)).length ≤ depth + 1) :
    ∀ s ∈ ss, ∀ p ∈ s.predicates, Readable (Grammar.single depth) .sequence
      (p.textAt spelling .sequence) p := by
  intro s hs p hp
  refine (hps s hs p hp).readable ?_
  have hstep := length_step spelling hs
  have hpredicate := length_predicate spelling hp
  omega

/-- steps behind an expression are read as a path that continues it -/
theorem readable_continued {ss : List Step} (he : e.ReadBack spelling) (hne : ss ≠ [])
    (htest : ∀ s ∈ ss, s.test.Lexical) (hps : ∀ s ∈ ss, ∀ p ∈ s.predicates, p.ReadBack spelling)
    (hd : (Expr.text spelling (.path (.value e) ss)).length ≤ depth) :
    Readable (Grammar.single depth) .path (Expr.text spelling (.path (.value e) ss))
      (e.continued ss) := by
  have hlength : (Expr.text spelling (.path (.value e) ss)).length =
      (e.textAt spelling .filter).length + 1 +
        (joined ['/'] (Expr.stepTexts spelling ss)).length := by
    rw [Expr.text, List.length_append, Origin.text, List.length_append]
    rfl
  obtain ⟨depth, rfl⟩ : ∃ n, depth = n + 1 := ⟨depth - 1, by omega⟩
  exact .of_continued (he.readable (by omega)) hne htest (readable_predicates hps (by omega))

theorem of_path {origin : Origin} {ss : List Step} (hlex : (Expr.path origin ss).Lexical)
    (horigin : ∀ e ∈ origin.children, e.ReadBack spelling)
    (hps : ∀ s ∈ ss, ∀ p ∈ s.predicates, p.ReadBack spelling) :
    (Expr.path origin ss).ReadBack spelling := by
  obtain ⟨htest, hlex⟩ := hlex
  refine of_readable (fun op => op.level_ne (l := .path) (by decide)) fun depth hd => ?_
  cases origin with
  | context =>
    have htext : Expr.text spelling (.path .context ss) =
        joined ['/'] (Expr.stepTexts spelling ss) := by
      rw [Expr.text]
      rfl
    rw [htext] at hd
    obtain ⟨s, ts, hss⟩ := List.exists_cons_of_ne_nil (show ss ≠ [] from hlex)
    have hstep := length_step spelling (hss ▸ List.mem_cons_self : s ∈ ss)
    obtain ⟨depth, rfl⟩ : ∃ n, depth = n + 1 := ⟨depth - 1, by omega⟩
    exact .of_context hlex htest (readable_predicates hps hd)
  | root =>
    have htext : Expr.text spelling (.path .root ss) =
        '/' :: joined ['/'] (Expr.stepTexts spelling ss) := by
      rw [Expr.text]
      rfl
    rw [htext, List.length_cons] at hd
    obtain ⟨depth, rfl⟩ : ∃ n, depth = n + 1 := ⟨depth - 1, by omega⟩
    exact .of_root htest (readable_predicates hps (by omega))
  | value e =>
    have hread := readable_continued (horigin e List.mem_cons_self) hlex.1 htest hps hd
    rwa [continued_of_not_isPath hlex.2] at hread

theorem of_sequence {es : List Expr} (hlen : es.length ≠ 1) (h : ∀ e ∈ es, e.ReadBack spelling) :
    (Expr.sequence es).ReadBack spelling := by
  by_cases hne : es = []
  · subst hne
    refine of_readable (fun op => op.level_ne (l := .primary) (by decide)) fun depth _ => ?_
    rw [Expr.text]
    exact .of_nil depth
  · have hempty : es.isEmpty = false := by rwa [List.isEmpty_eq_false_iff]
    have hlevel : (Expr.sequence es).level = .sequence := by
      rw [Expr.level, hempty]
      rfl
    have htext : Expr.text spelling (.sequence es) =
        joined [',', ' '] (Expr.itemTexts spelling es) := by
      rw [Expr.text, hempty]
      rfl
    refine of_readable (fun op => hlevel ▸ op.level_ne (by decide)) fun depth hd => ?_
    rw [htext] at hd ⊢
    rw [hlevel]
    refine .of_sequence hne hlen fun e he => (h e he).readable ?_
    exact Nat.le_trans (length_item spelling he) hd

theorem of_conditional {test yes no : Expr} (htest : test.ReadBack spelling)
    (hyes : yes.ReadBack spelling) (hno : no.ReadBack spelling) :
    (Expr.conditional test yes no).ReadBack spelling := by
  refine of_readable (fun op => op.level_ne (l := .whole) (by decide)) fun depth hd => ?_
  have htext : (test.textAt spelling .sequence).length + (yes.textAt spelling .single).length +
      (no.textAt spelling .single).length < (Expr.text spelling (.conditional test yes no)).length := by
    simp only [Expr.text, Expr.textAt, List.length_append, List.length_cons]
    omega
  obtain ⟨depth, rfl⟩ : ∃ n, depth = n + 1 := ⟨depth - 1, by omega⟩
  exact .of_conditional (htest.readable (by omega)) (hyes.readable (by omega))
    (hno.readable (by omega))

theorem of_quantified {q : Quantifier} {cs : List Clause} {satisfies : Expr} (hne : cs ≠ [])
    (hnames : ∀ c ∈ cs, IsQualifiedName c.name) (hdomains : ∀ c ∈ cs, c.domain.ReadBack spelling)
    (hsatisfies : satisfies.ReadBack spelling) :
    (Expr.quantified q cs satisfies).ReadBack spelling := by
  refine of_readable (fun op => op.level_ne (l := .whole) (by decide)) fun depth hd => ?_
  have htext : (joined [',', ' '] (Expr.clauseTexts spelling cs)).length +
      (satisfies.textAt spelling .single).length <
        (Expr.text spelling (.quantified q cs satisfies)).length := by
    simp only [Expr.text, Expr.textAt, List.length_append, List.length_cons]
    omega
  obtain ⟨depth, rfl⟩ : ∃ n, depth = n + 1 := ⟨depth - 1, by omega⟩
  refine .of_quantified hne hnames (fun c hc => (hdomains c hc).readable ?_)
    (hsatisfies.readable (by omega))
  have hclause := length_clause spelling hc
  omega

end Expr.ReadBack

/-! ## the round trip -/

theorem Expr.Normal.readBack (spelling : Spelling) {e : Expr} (h : e.Normal) :
    e.ReadBack spelling := by
  induction e using Expr.induction with
  | step e ih =>
    have hlex := h.lexical
    have hread : ∀ x ∈ e.children, x.ReadBack spelling := fun x hx => ih x hx (h.of_mem_children hx)
    cases e with
    | literal text => exact .of_literal hlex
    | number value => exact .of_number hlex
    | var name => exact .of_var hlex
    | call name args => exact .of_call hlex.1 hlex.2 hread
    | negate operand => exact .of_negate (hread operand List.mem_cons_self)
    | sequence items => exact .of_sequence hlex hread
    | path origin steps =>
      refine .of_path hlex (fun x hx => hread x (List.mem_append_left _ hx)) fun s hs p hp => ?_
      exact hread p (List.mem_append_right _ (List.mem_flatMap.mpr ⟨s, hs, hp⟩))
    | binary op left right =>
      exact .of_binary (hread left List.mem_cons_self)
        (hread right (List.mem_cons_of_mem _ List.mem_cons_self))
    | range first last =>
      exact .of_range (hread first List.mem_cons_self)
        (hread last (List.mem_cons_of_mem _ List.mem_cons_self))
    | filter base predicates =>
      exact .of_filter hlex (hread base List.mem_cons_self) fun p hp =>
        hread p (List.mem_cons_of_mem _ hp)
    | conditional test yes no =>
      have hyes : yes ∈ [test, yes, no] := List.mem_cons_of_mem _ List.mem_cons_self
      have hno : no ∈ [test, yes, no] :=
        List.mem_cons_of_mem _ (List.mem_cons_of_mem _ List.mem_cons_self)
      exact .of_conditional (hread test List.mem_cons_self) (hread yes hyes) (hread no hno)
    | quantified q clauses satisfies =>
      refine .of_quantified hlex.1 hlex.2 (fun c hc => ?_) (hread satisfies List.mem_cons_self)
      exact hread c.domain (List.mem_cons_of_mem _ (List.mem_map.mpr ⟨c, hc, rfl⟩))

/-- a text that is readable where nesting may go as deep as it is long -/
theorem parse_of_readable {l : Level} {text : List Char} {e : Expr}
    (h : Readable (Grammar.single text.length) l text e) :
    Expr.parse (String.ofList text) = .ok e := by
  have hwhole : Readable (Grammar.single text.length) .whole text e := h.at_level (Nat.zero_le _)
  obtain ⟨left, hl, hp⟩ := hwhole.reads [] Level.follow_nil
  rw [List.append_nil, hl.eq_nil] at hp
  have hread : Grammar.read? text = some (e, []) := hp
  unfold Expr.parse
  rw [String.toList_ofList, h.tight.trimChars_eq]
  simp only [hread]

/-- **The text of a normal expression is read as that expression**, whichever numerals stand for
its numbers. -/
theorem parse_render (spelling : Spelling) {e : Expr} (h : e.Normal) :
    Expr.parse (e.render spelling) = .ok e :=
  parse_of_readable (h.readBack spelling _ (Nat.le_refl _)).1

/-- an expression of every form -/
def surcharge : Expr :=
  .conditional
    (.quantified .some
      [⟨"x", .path .root [⟨.descendant, .named none "item",
        [.binary (.general .eq) (.path .context [⟨.attribute, .named (some "c") "id", []⟩])
          (.literal "it's")]⟩]⟩]
      (.path (.value (.filter (.var "x") [.call "last" []])) [⟨.child, .kind .text, []⟩]))
    (.binary .multiply (.negate (.binary .union (.path .context [⟨.child, .any, []⟩]) (.path .root [])))
      (.binary .subtract (.number (Number.ofDecimal false ⟨25, -1⟩)) (.var "rate")))
    (.sequence [.range (.number (Number.ofDecimal false ⟨1, 0⟩)) (.var "rate"), .sequence []])

theorem parse_render_surcharge :
    surcharge.Normal ∧ Expr.parse (surcharge.render default) = .ok surcharge := by
  have h : surcharge.Normal := by
    have hx : IsQualifiedName "x" := .inl ⟨rfl, rfl⟩
    have hrate : IsQualifiedName "rate" := .inl ⟨rfl, rfl⟩
    have hlast : IsQualifiedName "last" ∧ isKindName "last" = false := ⟨.inl ⟨rfl, rfl⟩, rfl⟩
    have hnames : IsName ['i', 't', 'e', 'm'] ∧ IsName ['c'] ∧ IsName ['i', 'd'] :=
      ⟨⟨rfl, rfl⟩, ⟨rfl, rfl⟩, ⟨rfl, rfl⟩⟩
    have hrational : IsNumeral (Number.ofDecimal false ⟨25, -1⟩) := ⟨['2', '.', '5'], rfl⟩
    have hone : IsNumeral (Number.ofDecimal false ⟨1, 0⟩) := ⟨['1'], rfl⟩
    unfold Expr.Normal surcharge
    simp only [Expr.parts, Origin.parts, Expr.listParts, Expr.stepParts, Step.parts, Expr.clauseParts,
      Clause.parts, if_true, List.nil_append, List.append_nil, List.cons_append, List.forall_mem_cons,
      Expr.Lexical, NodeTest.Lexical]
    simpa [hx, hrate, hlast, hrational, hone, Expr.isPath] using hnames
  exact ⟨h, parse_render default h⟩

end Rulebook
