import Rulebook.Proofs.Expr.RoundTrip
import Rulebook.Proofs.Text.Yields

/-!
# What the grammar reads is normal

Every rule is followed through its definition; those that contain whole expressions again take for
granted that the scan for these yields normal ones.

* `Step.Normal`, `Clause.Normal`  normal with what is in them;
* `Expr.normal_iff`               normal is what is lexical and has normal expressions in it;
* `Expr.Normal.continued`         it stays so where normal steps follow.

`yields_single`: **however deep expressions are nested, the grammar reads normal ones**, and so what
is read off texts are the normal expressions and no others (`exists_parse_eq_ok_iff_normal`).
-/

set_option autoImplicit false

namespace Rulebook

open Text Scan

/-! ## normal parts -/

structure Step.Normal (s : Step) : Prop where
  test : s.test.Lexical
  predicates : ∀ p ∈ s.predicates, p.Normal

theorem Step.normal_anywhere : Step.anywhere.Normal :=
  ⟨True.intro, fun _ hp => absurd hp List.not_mem_nil⟩

structure Clause.Normal (c : Clause) : Prop where
  name : IsQualifiedName c.name
  domain : c.domain.Normal

namespace Expr

theorem exists_path_of_isPath {e : Expr} (h : e.isPath = true) :
    ∃ origin steps, e = .path origin steps := by
  cases e with
  | path origin steps => exact ⟨origin, steps, rfl⟩
  | _ => cases h

theorem normal_iff {e : Expr} : e.Normal ↔ e.Lexical ∧ ∀ x ∈ e.children, x.Normal := by
  constructor
  · exact fun h => ⟨h.lexical, fun _ hx => h.of_mem_children hx⟩
  · rintro ⟨hlex, hchildren⟩ x hx
    by_cases heq : x = e
    · exact heq ▸ hlex
    · obtain ⟨y, hy, hx⟩ := exists_mem_children_of_mem_parts hx heq
      exact hchildren y hy x hx

theorem Normal.of_mem_parts {e x : Expr} (h : e.Normal) (hx : x ∈ e.parts true) : x.Normal := by
  induction e using Expr.induction with
  | step e ih =>
    by_cases heq : x = e
    · exact heq ▸ h
    · obtain ⟨y, hy, hx⟩ := exists_mem_children_of_mem_parts hx heq
      exact ih y hy (h.of_mem_children hy) hx

theorem normal_steps_iff {steps : List Step} : (∀ s ∈ steps, s.Normal) ↔
    (∀ s ∈ steps, s.test.Lexical) ∧ ∀ p ∈ steps.flatMap (·.predicates), p.Normal := by
  simp only [List.mem_flatMap]
  constructor
  · intro h
    refine ⟨fun s hs => (h s hs).test, ?_⟩
    rintro p ⟨s, hs, hp⟩
    exact (h s hs).predicates p hp
  · rintro ⟨htest, hps⟩ s hs
    exact ⟨htest s hs, fun p hp => hps p ⟨s, hs, hp⟩⟩

theorem normal_path_iff {origin : Origin} {steps : List Step} :
    (Expr.path origin steps).Normal ↔ (∀ s ∈ steps, s.Normal) ∧
      (origin = .context → steps ≠ []) ∧
      ∀ e, origin = .value e → steps ≠ [] ∧ e.isPath = false ∧ e.Normal := by
  rw [normal_iff, normal_steps_iff, children, List.forall_mem_append]
  cases origin with
  | context =>
    constructor
    · rintro ⟨⟨htest, hne⟩, -, hps⟩
      refine ⟨⟨htest, hps⟩, fun _ => hne, fun _ h => ?_⟩
      cases h
    · rintro ⟨⟨htest, hps⟩, hne, -⟩
      exact ⟨⟨htest, hne rfl⟩, fun _ h => absurd h List.not_mem_nil, hps⟩
  | root =>
    constructor
    · rintro ⟨⟨htest, -⟩, -, hps⟩
      refine ⟨⟨htest, hps⟩, fun h => ?_, fun _ h => ?_⟩ <;> cases h
    · rintro ⟨⟨htest, hps⟩, -⟩
      exact ⟨⟨htest, True.intro⟩, fun _ h => absurd h List.not_mem_nil, hps⟩
  | value e =>
    constructor
    · rintro ⟨⟨htest, hne, hpath⟩, he, hps⟩
      refine ⟨⟨htest, hps⟩, fun h => ?_, fun _ h => ?_⟩ <;> cases h
      exact ⟨hne, hpath, he e List.mem_cons_self⟩
    · rintro ⟨⟨htest, hps⟩, -, hvalue⟩
      obtain ⟨hne, hpath, he⟩ := hvalue e rfl
      exact ⟨⟨htest, hne, hpath⟩, List.forall_mem_singleton.mpr he, hps⟩

theorem Normal.of_root {steps : List Step} (h : ∀ s ∈ steps, s.Normal) :
    (Expr.path .root steps).Normal := by
  refine normal_path_iff.mpr ⟨h, fun h => ?_, fun _ h => ?_⟩ <;> cases h

theorem Normal.of_context {steps : List Step} (hne : steps ≠ []) (h : ∀ s ∈ steps, s.Normal) :
    (Expr.path .context steps).Normal := by
  refine normal_path_iff.mpr ⟨h, fun _ => hne, fun _ h => ?_⟩
  cases h

theorem Normal.of_value {e : Expr} {steps : List Step} (he : e.Normal) (hpath : e.isPath = false)
    (hne : steps ≠ []) (h : ∀ s ∈ steps, s.Normal) : (Expr.path (.value e) steps).Normal := by
  refine normal_path_iff.mpr ⟨h, fun h => ?_, fun _ h => ?_⟩ <;> cases h
  exact ⟨hne, hpath, he⟩

/-- without expressions in it -/
theorem Normal.of_lexical {e : Expr} (h : e.Lexical) (hchildren : e.children = []) : e.Normal :=
  normal_iff.mpr ⟨h, fun _ hx => absurd (hchildren ▸ hx) List.not_mem_nil⟩

theorem Normal.continued {e : Expr} {more : List Step} (he : e.Normal) (hne : more ≠ [])
    (hmore : ∀ s ∈ more, s.Normal) : (e.continued more).Normal := by
  cases hpath : e.isPath with
  | false =>
    rw [continued_of_not_isPath hpath]
    exact he.of_value hpath hne hmore
  | true =>
    obtain ⟨origin, steps, rfl⟩ := exists_path_of_isPath hpath
    obtain ⟨hsteps, -, hvalue⟩ := normal_path_iff.mp he
    have hne' : steps ++ more ≠ [] := List.append_ne_nil_of_right_ne_nil steps hne
    exact normal_path_iff.mpr ⟨List.forall_mem_append.mpr ⟨hsteps, hmore⟩, fun _ => hne',
      fun e h => ⟨hne', (hvalue e h).2⟩⟩

theorem Normal.binary {left right : Expr} (op : BinaryOp) (hl : left.Normal) (hr : right.Normal) :
    (Expr.binary op left right).Normal :=
  normal_iff.mpr ⟨True.intro, List.forall_mem_cons.mpr ⟨hl, List.forall_mem_singleton.mpr hr⟩⟩

theorem Normal.linked {e : Expr} {links : List (BinaryOp × Expr)} (he : e.Normal)
    (hlinks : ∀ x ∈ links, x.2.Normal) : (e.linked links).Normal := by
  induction links generalizing e with
  | nil => exact he
  | cons x links ih =>
    obtain ⟨hx, hlinks⟩ := List.forall_mem_cons.mp hlinks
    exact ih (he.binary x.1 hx) hlinks

theorem Normal.signedBy {e : Expr} (he : e.Normal) (signs : List Unit) :
    (Readable.signedBy signs e).Normal := by
  induction signs generalizing e with
  | nil => exact he
  | cons _ signs ih =>
    have hnegate : (Expr.negate e).Normal :=
      normal_iff.mpr ⟨True.intro, List.forall_mem_singleton.mpr he⟩
    exact ih hnegate

end Expr

namespace Grammar

theorem yields_name : name.Yields IsName := by
  refine (Yields.satisfy isNameStart).bind fun _ hc => ?_
  exact (Yields.takeWhile isNameChar).bind fun _ hcs => .pure ⟨hc, hcs⟩

theorem yields_qualifiedName : qualifiedName.Yields IsQualifiedName := by
  refine yields_name.bind fun first hfirst => ?_
  refine yields_name.seqRight.optional?.bind fun second hsecond => .pure ?_
  unfold IsQualifiedName
  rw [String.toList_ofList]
  cases second with
  | none => exact .inl hfirst
  | some second => exact .inr ⟨first, second, hfirst, hsecond second rfl, rfl⟩

theorem yields_nameTest : nameTest.Yields NodeTest.Lexical := by
  refine yields_name.bind fun first hfirst => ?_
  refine yields_name.seqRight.optional?.bind fun second hsecond => .pure ?_
  cases second with
  | none =>
    refine ⟨fun q hq => ?_, ?_⟩
    · cases hq
    · rw [String.toList_ofList]
      exact hfirst
  | some second =>
    refine ⟨fun q hq => ?_, ?_⟩
    · cases hq
      rw [String.toList_ofList]
      exact hfirst
    · rw [String.toList_ofList]
      exact hsecond second rfl

theorem yields_nodeTest : nodeTest.Yields NodeTest.Lexical := by
  refine .first_cons ?_ (.first_cons ?_ (.first_cons ?_ (.first_cons yields_nameTest .failure)))
  · exact (Yields.pure True.intro).seqRight
  · exact Yields.trivial.map fun _ _ => True.intro
  · refine yields_name.bind fun qualifier h => .after fun _ => .pure ?_
    show IsName _
    rw [String.toList_ofList]
    exact h

theorem yields_quoted (quote : Char) : (quoted quote).Yields fun s => quote ∉ s.toList := by
  refine .after fun _ => ?_
  refine (Yields.takeWhile (· != quote)).bind fun cs hcs => .after fun _ => .pure ?_
  rw [String.toList_ofList]
  intro hmem
  have hne : (quote != quote) = true := List.all_eq_true.mp hcs quote hmem
  rw [bne_self_eq_false] at hne
  cases hne

theorem yields_literal : literal.Yields fun s => ¬ ('\'' ∈ s.toList ∧ '"' ∈ s.toList) := by
  refine .orElse ?_ ?_
  · exact (yields_quoted _).mono fun _ h hboth => h hboth.1
  · exact (yields_quoted _).mono fun _ h hboth => h hboth.2

/-- what a numeral is read from is one by itself, whatever follows -/
theorem yields_numeral : numeral.Yields IsNumeral := by
  refine .orElse ?_ (.after fun _ => ?_)
  · refine (Yields.takeWhile1 Number.isDigit).bind fun whole hwhole => ?_
    refine (Yields.takeWhile Number.isDigit).seqRight.optional?.bind fun fraction hfraction => ?_
    obtain ⟨c, cs, rfl⟩ := List.exists_cons_of_ne_nil hwhole.1
    obtain ⟨hc, hcs⟩ := Bool.and_eq_true_iff.mp hwhole.2
    cases fraction with
    | none =>
      obtain ⟨htake, hdrop⟩ := takeWhile_of_all hcs
      refine .pure ⟨c :: cs, ?_⟩
      simp [numeral, Scan.takeWhile1, Scan.optional?, char, hc, htake, hdrop]
    | some places =>
      have hends : Ends Number.isDigit ('.' :: places) := ends_cons isDigit_point places
      obtain ⟨htake, hdrop⟩ := takeWhile_of_all (hfraction places rfl)
      refine .pure ⟨c :: (cs ++ '.' :: places), ?_⟩
      simp [numeral, Scan.takeWhile1, Scan.takeWhile, Scan.optional?, char, hc,
        hends.takeWhile_append hcs, hends.dropWhile_append hcs, htake, hdrop]
  · refine (Yields.takeWhile1 Number.isDigit).bind fun places hplaces => ?_
    obtain ⟨c, cs, rfl⟩ := List.exists_cons_of_ne_nil hplaces.1
    obtain ⟨hc, hcs⟩ := Bool.and_eq_true_iff.mp hplaces.2
    obtain ⟨htake, hdrop⟩ := takeWhile_of_all hcs
    refine .pure ⟨'.' :: c :: cs, ?_⟩
    simp [numeral, Scan.takeWhile1, char, isDigit_point, hc, htake, hdrop]

theorem yields_spaced {α : Type} {p : Scan α} {P : α → Prop} (h : p.Yields P) :
    (spaced p).Yields P :=
  .after fun _ => h.bind fun _ ha => .after fun _ => .pure ha

theorem yields_between {left right : Char} {α : Type} {p : Scan α} {P : α → Prop}
    (h : p.Yields P) : (between left right p).Yields P :=
  .after fun _ => h.bind fun _ ha => .after fun _ => .pure ha

theorem yields_stepStart : stepStart.Yields fun x => x.2.Lexical := by
  refine .first_cons ?_ (.first_cons ?_ (.first_cons ?_ (.first_cons ?_ .failure)))
  · exact (Yields.pure True.intro).seqRight
  · exact (Yields.pure True.intro).seqRight
  · exact .after fun _ => yields_nodeTest.bind fun _ htest => .pure htest
  · exact .after fun _ => yields_nodeTest.bind fun _ htest => .pure htest

theorem yields_chain {op : Scan BinaryOp} {operand : Scan Expr} (h : operand.Yields Expr.Normal) :
    (chain op operand).Yields Expr.Normal := by
  have hlink : (link op operand).Yields fun x => x.2.Normal :=
    .after fun _ => h.bind fun _ he => .pure he
  exact h.bind fun _ hfirst => hlink.many.bind fun _ hlinks => .pure (hfirst.linked hlinks)

section
variable {single : Scan Expr} (h : single.Yields Expr.Normal)
include h

theorem yields_expression : (expression single).Yields Expr.Normal := by
  refine h.sepBy1.bind fun items hall => .pure ?_
  obtain ⟨hne, hitems⟩ := hall
  cases items with
  | nil => exact absurd rfl hne
  | cons e es =>
    cases es with
    | nil => exact hitems e List.mem_cons_self
    | cons e' es =>
      have hlength : (e :: e' :: es).length ≠ 1 := by simp
      exact Expr.normal_iff.mpr ⟨hlength, hitems⟩

theorem yields_predicate : (predicate single).Yields Expr.Normal :=
  yields_between (yields_expression h)

theorem yields_step : (step single).Yields Step.Normal := by
  refine yields_stepStart.bind fun start htest => ?_
  exact (yields_predicate h).many.bind fun _ hpredicates => .pure ⟨htest, hpredicates⟩

theorem yields_moreSteps : (moreSteps single).Yields fun ss => ∀ s ∈ ss, s.Normal := by
  have hslash : (slashStep single).Yields fun x => x.2.Normal :=
    .after fun _ => (yields_step h).bind fun _ hs => .pure hs
  refine hslash.many.bind fun pairs hpairs => .pure fun s hs => ?_
  obtain ⟨⟨deep, s'⟩, hpair, hs⟩ := List.mem_flatMap.mp hs
  have hs' : s'.Normal := hpairs _ hpair
  cases deep with
  | false => exact List.mem_singleton.mp hs ▸ hs'
  | true =>
    rcases List.mem_cons.mp hs with rfl | hs
    · exact Step.normal_anywhere
    · exact List.mem_singleton.mp hs ▸ hs'

theorem yields_locationPath : (locationPath single).Yields Expr.Normal := by
  intro cs e rest hp
  unfold locationPath at hp
  split at hp
  · refine Yields.bind (yields_step h) (fun s hs => ?_) _ e rest hp
    exact (yields_moreSteps h).bind fun more hmore => .pure (.of_root (List.forall_mem_cons.mpr
      ⟨Step.normal_anywhere, List.forall_mem_cons.mpr ⟨hs, hmore⟩⟩))
  · refine Yields.bind (yields_step h).optional? (fun s? hs => ?_) _ e rest hp
    exact (yields_moreSteps h).bind fun more hmore => .pure (.of_root (List.forall_mem_append.mpr
      ⟨fun s hmem => hs s (Option.mem_toList.mp hmem), hmore⟩))
  · refine Yields.bind (yields_step h) (fun s hs => ?_) _ e rest hp
    exact (yields_moreSteps h).bind fun more hmore =>
      .pure (.of_context (List.cons_ne_nil s more) (List.forall_mem_cons.mpr ⟨hs, hmore⟩))

theorem yields_call : (call single).Yields Expr.Normal := by
  refine yields_qualifiedName.bind fun function hname => .after fun _ => ?_
  refine (Yields.guard _).bind fun _ hkind => .after fun _ => .after fun _ => ?_
  refine h.sepBy.bind fun args hargs => .after fun _ => .pure ?_
  rw [Bool.not_eq_true'] at hkind
  exact Expr.normal_iff.mpr ⟨⟨hname, hkind⟩, hargs⟩

theorem yields_parenthesized : (parenthesized single).Yields Expr.Normal := by
  refine (yields_between (yields_expression h).optional?).bind fun e? he => .pure ?_
  cases e? with
  | none => exact .of_lexical Nat.zero_ne_one rfl
  | some e => exact he e rfl

theorem yields_primary : (primary single).Yields Expr.Normal := by
  refine yields_spaced (.first_cons ?_ (.first_cons ?_ (.first_cons ?_
    (.first_cons (yields_call h) (.first_cons (yields_parenthesized h) .failure)))))
  · exact yields_qualifiedName.seqRight.map fun _ hname => .of_lexical hname rfl
  · exact yields_numeral.map fun _ hvalue => .of_lexical hvalue rfl
  · exact yields_literal.map fun _ htext => .of_lexical htext rfl

theorem yields_filtered : (filtered single).Yields Expr.Normal := by
  refine (yields_primary h).bind fun base hbase => ?_
  refine (yields_predicate h).many.bind fun predicates hpredicates => .pure ?_
  cases predicates with
  | nil => exact hbase
  | cons p ps =>
    exact Expr.normal_iff.mpr ⟨List.cons_ne_nil p ps, List.forall_mem_cons.mpr ⟨hbase, hpredicates⟩⟩

theorem yields_path : (path single).Yields Expr.Normal := by
  refine ((yields_filtered h).orElse (yields_locationPath h)).bind fun start hstart => ?_
  refine (yields_moreSteps h).bind fun more hmore => .pure ?_
  cases more with
  | nil => exact hstart
  | cons s more =>
    have hcontinued := hstart.continued (List.cons_ne_nil s more) hmore
    cases start <;> exact hcontinued

theorem yields_signed : (signed single).Yields Expr.Normal := by
  refine .after fun signs => ?_
  exact (yields_chain (yields_path h)).bind fun _ he => .pure (he.signedBy signs)

theorem yields_range : (range single).Yields Expr.Normal := by
  have hsum : (sum single).Yields Expr.Normal := yields_chain (yields_chain (yields_signed h))
  refine hsum.bind fun first hfirst => ?_
  refine hsum.seqRight.optional?.bind fun last hlast => .pure ?_
  cases last with
  | none => exact hfirst
  | some last =>
    exact Expr.normal_iff.mpr ⟨True.intro,
      List.forall_mem_cons.mpr ⟨hfirst, List.forall_mem_singleton.mpr (hlast last rfl)⟩⟩

theorem yields_disjunction : (disjunction single).Yields Expr.Normal :=
  yields_chain (yields_chain (yields_chain (yields_chain (yields_range h))))

theorem yields_conditional : (conditional single).Yields Expr.Normal := by
  refine .after fun _ => (yields_between (yields_expression h)).bind fun test htest => ?_
  refine .after fun _ => h.bind fun yes hyes => ?_
  refine .after fun _ => h.bind fun no hno => .pure ?_
  exact Expr.normal_iff.mpr ⟨True.intro, List.forall_mem_cons.mpr
    ⟨htest, List.forall_mem_cons.mpr ⟨hyes, List.forall_mem_singleton.mpr hno⟩⟩⟩

theorem yields_clause : (clause single).Yields Clause.Normal := by
  refine .after fun _ => yields_qualifiedName.bind fun _ hname => ?_
  exact .after fun _ => h.bind fun _ hdomain => .pure ⟨hname, hdomain⟩

theorem yields_quantified : (quantified single).Yields Expr.Normal := by
  refine .after fun q => (yields_clause h).sepBy1.bind fun clauses hall => ?_
  refine .after fun _ => h.bind fun satisfies hsatisfies => .pure ?_
  obtain ⟨hne, hclauses⟩ := hall
  refine Expr.normal_iff.mpr ⟨⟨hne, fun c hc => (hclauses c hc).name⟩,
    List.forall_mem_cons.mpr ⟨hsatisfies, fun x hx => ?_⟩⟩
  obtain ⟨c, hc, rfl⟩ := List.mem_map.mp hx
  exact (hclauses c hc).domain

theorem yields_singleBody : (singleBody single).Yields Expr.Normal :=
  .first_cons (yields_conditional h) (.first_cons (yields_quantified h)
    (.first_cons (yields_disjunction h) .failure))

end

/-- **However deep expressions are nested, the grammar reads normal ones.** -/
theorem yields_single (depth : Nat) : (Grammar.single depth).Yields Expr.Normal := by
  induction depth with
  | zero => exact .failure
  | succ depth ih => exact yields_singleBody ih

theorem normal_of_read? {cs rest : List Char} {e : Expr} (h : read? cs = some (e, rest)) :
    e.Normal :=
  yields_expression (yields_single _) cs e rest h

theorem read?_of_parse {source : String} {e : Expr} (h : Expr.parse source = .ok e) :
    read? (trimChars source.toList) = some (e, []) := by
  unfold Expr.parse at h
  dsimp only at h
  split at h
  · cases h
    assumption
  · cases h
  · cases h

end Grammar

/-- **What is read off some text is normal, at every depth, and each normal expression is read off
some text.** -/
theorem exists_parse_eq_ok_iff_normal {e : Expr} :
    (∃ source, Expr.parse source = .ok e) ↔ e.Normal := by
  constructor
  · rintro ⟨source, h⟩
    exact Grammar.normal_of_read? (Grammar.read?_of_parse h)
  · intro h
    exact ⟨e.render default, parse_of_readable (h.readBack default _ (Nat.le_refl _)).1⟩

end Rulebook
