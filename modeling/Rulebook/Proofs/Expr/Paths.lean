import Rulebook.Proofs.Expr.Primary

/-!
# Paths and filters

Predicates and steps one after the other, and the expressions made of them.

* `AfterStep`          a rest that does not belong to a step;
* `slashed`            a step with the separator before it;
* `Expr.continued`     what is read where steps follow an expression.

`Readable.of_context`, `Readable.of_root`, `Readable.of_continued`, `Readable.of_filter`: **paths
and filters are readable if their predicates are, one level less deep.**
-/

set_option autoImplicit false

namespace Rulebook

open Text Scan Grammar

/-! ## predicates and steps -/

section
variable {spelling : Spelling} {depth : Nat}

theorem tight_predicate (text : List Char) : Tight ('[' :: (text ++ [']'])) :=
  (Tight.singleton (c := '[') (by decide)).append (.singleton (c := ']') (by decide)) text

theorem collect_predicates {ps : List Expr}
    (h : ∀ p ∈ ps, Readable (Grammar.single depth) .sequence (p.textAt spelling .sequence) p)
    {rest left : List Char} (hstop : spaced (char '[') rest = none)
    (hl : Loose (Expr.predicateText spelling ps ++ rest) left) :
    ∃ left', Loose rest left' ∧
      collect (predicate (Grammar.single (depth + 1))) left = (ps, left') := by
  have hskip : ∀ cs, predicate (Grammar.single (depth + 1)) (skip cs) =
      predicate (Grammar.single (depth + 1)) cs := by
    intro cs
    unfold predicate between
    rw [bind_apply, bind_apply, (Loose.skip cs).spaced_eq]
  have hread : ∀ p ∈ ps, ∀ rest, True →
      Reads (predicate (Grammar.single (depth + 1)))
        ('[' :: (p.textAt spelling .sequence ++ [']']) ++ rest) (id p) rest := by
    intro p hp rest _
    have hinner := (h p hp).reads (']' :: rest) ((Level.follow_bracket rest).mono (by decide))
    have hbetween := between_eq (l := '[') (by decide) (by decide)
      ((h p hp).tight.solid.append (']' :: rest)) hinner
    refine .of_skip ?_
    rw [List.cons_append, List.append_assoc]
    exact hbetween
  rw [Expr.predicateText_eq] at hl
  obtain ⟨left', hl', hcollect⟩ := collect_flatMap hskip hread
    (fun _ _ => solid_cons (by decide) _) (fun _ _ _ => trivial) trivial
    (Readable.predicate_of_stop (.refl rest) hstop) left hl
  rw [List.map_id] at hcollect
  exact ⟨left', hl', hcollect⟩

/-- what can stand behind a step -/
structure AfterStep (rest : List Char) : Prop where
  clear : Clear rest
  notOpen : spaced (char '(') rest = none
  noPredicate : spaced (char '[') rest = none

theorem afterStep_slash (cs : List Char) : AfterStep ('/' :: cs) :=
  ⟨clear_cons (by decide) cs, rfl, rfl⟩

theorem Level.Follow.afterStep {rest : List Char} (h : Level.path.Follow rest) : AfterStep rest :=
  ⟨h.clear, h.stops .primary (by decide), h.stops .filter (by decide)⟩

theorem stepStart_append (a : Axis) {test : NodeTest} {rest : List Char} {cs : List Char}
    (h : Reads nodeTest cs test rest) :
    Reads stepStart (a.keyword.toList ++ ':' :: ':' :: cs) (a, test) rest := by
  obtain ⟨left, hl, hp⟩ := h
  have hdot : Ends (· == '.') (a.keyword.toList ++ ':' :: ':' :: cs) :=
    ends_of_isName (isName_keyword a) (beq_of_isNameStart (by decide)) _
  have hat : Ends (· == '@') (a.keyword.toList ++ ':' :: ':' :: cs) :=
    ends_of_isName (isName_keyword a) (beq_of_isNameStart (by decide)) _
  have haxis := optional?_of_some _ _ (axis_append a cs)
  refine ⟨left, hl, ?_⟩
  simp [stepStart, afterPrefix?_of_ends hdot, char_of_ends hat, haxis, hp]

theorem reads_step {s : Step} (htest : s.test.Lexical)
    (hps : ∀ p ∈ s.predicates, Readable (Grammar.single depth) .sequence
      (p.textAt spelling .sequence) p) {rest : List Char} (hr : AfterStep rest) :
    Reads (step (Grammar.single (depth + 1))) (s.text spelling ++ rest) s rest := by
  obtain ⟨a, test, ps⟩ := s
  have hbehind : Clear (Expr.predicateText spelling ps ++ rest) ∧
      spaced (char '(') (Expr.predicateText spelling ps ++ rest) = none := by
    cases ps with
    | nil => exact ⟨hr.clear, hr.notOpen⟩
    | cons p ps => exact ⟨clear_cons (by decide) _, rfl⟩
  obtain ⟨left, hl, hp⟩ := stepStart_append a (nodeTest_append htest hbehind.1 hbehind.2)
  obtain ⟨left', hl', hcollect⟩ := collect_predicates hps hr.noPredicate hl
  refine ⟨left', hl', ?_⟩
  have htext : Step.text spelling ⟨a, test, ps⟩ ++ rest = a.keyword.toList ++ ':' :: ':' ::
      (test.text ++ (Expr.predicateText spelling ps ++ rest)) := by
    simp [Step.text]
  rw [htext]
  simp [step, hp, hcollect]

theorem tight_nodeTest {test : NodeTest} (h : test.Lexical) : Tight test.text := by
  cases test with
  | any => exact .singleton (by decide)
  | named q l =>
    cases q with
    | none => exact tight_of_isName h.2
    | some q => exact (tight_of_isName (h.1 q rfl)).append (tight_of_isName h.2) [':']
  | within q => exact (tight_of_isName h).append (.singleton (by decide)) [':']
  | kind k =>
    have hk : IsName k.keyword.toList := by cases k <;> exact ⟨rfl, rfl⟩
    exact (tight_of_isName hk).append (.singleton (by decide)) ['(']

theorem tight_step {s : Step} (h : s.test.Lexical) : Tight (s.text spelling) := by
  obtain ⟨a, test, ps⟩ := s
  have hstart := (tight_of_isName (isName_keyword a)).append (tight_nodeTest h) [':', ':']
  have hall := hstart.append_flatMap fun p (_ : p ∈ ps) =>
    tight_predicate (p.textAt spelling .sequence)
  rw [← Expr.predicateText_eq] at hall
  simpa [Step.text] using hall

/-- a separator with the step behind it -/
def slashStep (single : Scan Expr) : Scan (Bool × Step) := do
  let deep ← separator
  let s ← step single
  return (deep, s)

/-- the steps that a step behind a separator stands for -/
def behind (x : Bool × Step) : List Step := if x.1 then [.anywhere, x.2] else [x.2]

theorem moreSteps_apply (single : Scan Expr) (cs : List Char) :
    moreSteps single cs = some ((collect (slashStep single) cs).1.flatMap behind,
      (collect (slashStep single) cs).2) := rfl

theorem slashStep_skip (single : Scan Expr) (cs : List Char) :
    slashStep single (skip cs) = slashStep single cs := by
  unfold slashStep
  rw [bind_apply, bind_apply, separator, (Loose.skip cs).spaced_eq]

theorem slashStep_of_separator {single : Scan Expr} {rest : List Char}
    (h : separator rest = none) : slashStep single rest = none := by
  unfold slashStep
  rw [bind_apply, h]
  rfl

/-- a step with the separator before it -/
def slashed (spelling : Spelling) (s : Step) : List Char := '/' :: s.text spelling

theorem separator_slashed (s : Step) (rest : List Char) :
    separator (slashed spelling s ++ rest) = some (false, s.text spelling ++ rest) := by
  obtain ⟨a, test, ps⟩ := s
  cases a <;> rfl

theorem moreSteps_slashed {ss : List Step} (htest : ∀ s ∈ ss, s.test.Lexical)
    (hps : ∀ s ∈ ss, ∀ p ∈ s.predicates, Readable (Grammar.single depth) .sequence
      (p.textAt spelling .sequence) p)
    {rest left : List Char} (hr : AfterStep rest) (hstop : separator rest = none)
    (hl : Loose (ss.flatMap (slashed spelling) ++ rest) left) :
    ∃ left', Loose rest left' ∧
      moreSteps (Grammar.single (depth + 1)) left = some (ss, left') := by
  have hread : ∀ s ∈ ss, ∀ rest, AfterStep rest →
      Reads (slashStep (Grammar.single (depth + 1))) (slashed spelling s ++ rest) (false, s) rest := by
    intro s hs rest hr
    obtain ⟨left, hl, hp⟩ := reads_step (htest s hs) (hps s hs) hr
    refine ⟨left, hl, ?_⟩
    unfold slashStep
    rw [bind_apply, separator_slashed, Option.bind_some, bind_apply, hp]
    rfl
  obtain ⟨left', hl', hcollect⟩ := collect_flatMap (slashStep_skip _) hread
    (fun _ _ => solid_cons (by decide) _) (fun _ _ _ => afterStep_slash _) hr
    (slashStep_of_separator hstop) left hl
  refine ⟨left', hl', ?_⟩
  rw [moreSteps_apply, hcollect]
  simp [behind, List.flatMap_map]

end

/-! ## paths -/

/-- a path goes on as itself, any other expression is what a path begins with -/
def Expr.continued (e : Expr) (more : List Step) : Expr :=
  match e with
  | .path origin steps => .path origin (steps ++ more)
  | e => .path (.value e) more

theorem Expr.continued_of_not_isPath {e : Expr} (h : e.isPath = false) (more : List Step) :
    e.continued more = .path (.value e) more := by
  cases e with
  | path => cases h
  | _ => rfl

section
variable {spelling : Spelling} {depth : Nat} {ss : List Step}

/-- a step begins with the name of its axis -/
theorem ends_step (s : Step) {p : Char → Bool} (hp : ∀ c, isNameStart c = true → p c = false)
    (rest : List Char) : Ends p (s.text spelling ++ rest) := by
  obtain ⟨a, test, ps⟩ := s
  rw [Step.text, List.append_assoc]
  exact ends_of_isName (isName_keyword a) hp _

theorem ends_of_separator {rest : List Char} (h : separator rest = none) : Ends (· == '/') rest := by
  intro c hc
  rw [beq_eq_false_iff_ne]
  rintro rfl
  obtain ⟨cs, rfl⟩ : ∃ cs, rest = '/' :: cs := by
    cases rest with
    | nil => nomatch hc
    | cons d cs => cases hc; exact ⟨cs, rfl⟩
  rw [separator, spaced_apply, skip_cons (by decide)] at h
  simp [afterPrefix?] at h

theorem joined_steps (s : Step) (ss : List Step) :
    joined ['/'] (Expr.stepTexts spelling (s :: ss)) =
      s.text spelling ++ ss.flatMap (slashed spelling) := by
  rw [Expr.stepTexts_eq]
  simp [joined, List.flatMap_map]
  rfl

theorem filtered_of_step (single : Scan Expr) (s : Step) (rest : List Char) :
    filtered single (s.text spelling ++ rest) = none := by
  have hprimary : Grammar.primary single (s.text spelling ++ rest) = none := by
    obtain ⟨a, test, ps⟩ := s
    cases a <;> rfl
  unfold filtered
  rw [bind_apply, hprimary]
  rfl

theorem filtered_of_slash (single : Scan Expr) (rest : List Char) :
    filtered single ('/' :: rest) = none := rfl

/-- the first step of a path, and the others behind it -/
theorem steps_append {s : Step} (htest : ∀ t ∈ s :: ss, t.test.Lexical)
    (hps : ∀ t ∈ s :: ss, ∀ p ∈ t.predicates, Readable (Grammar.single depth) .sequence
      (p.textAt spelling .sequence) p)
    {rest : List Char} (hr : AfterStep rest) (hstop : separator rest = none) :
    ∃ left left', Loose rest left' ∧
      step (Grammar.single (depth + 1))
        (joined ['/'] (Expr.stepTexts spelling (s :: ss)) ++ rest) = some (s, left) ∧
      moreSteps (Grammar.single (depth + 1)) left = some (ss, left') := by
  have hbehind : AfterStep (ss.flatMap (slashed spelling) ++ rest) := by
    cases ss with
    | nil => exact hr
    | cons t ts => exact afterStep_slash _
  obtain ⟨left, hl, hp⟩ := reads_step (htest s List.mem_cons_self) (hps s List.mem_cons_self) hbehind
  obtain ⟨left', hl', hmore⟩ := moreSteps_slashed (fun t ht => htest t (List.mem_cons_of_mem _ ht))
    (fun t ht => hps t (List.mem_cons_of_mem _ ht)) hr hstop hl
  refine ⟨left, left', hl', ?_, hmore⟩
  rw [joined_steps, List.append_assoc]
  exact hp

theorem ends_slash_steps (spelling : Spelling) (s : Step) (ss : List Step) (rest : List Char) :
    Ends (· == '/') (joined ['/'] (Expr.stepTexts spelling (s :: ss)) ++ rest) := by
  rw [joined_steps, List.append_assoc]
  exact ends_step s (beq_of_isNameStart (by decide)) _

theorem locationPath_of_context (hne : ss ≠ []) (htest : ∀ t ∈ ss, t.test.Lexical)
    (hps : ∀ t ∈ ss, ∀ p ∈ t.predicates, Readable (Grammar.single depth) .sequence
      (p.textAt spelling .sequence) p)
    {rest : List Char} (hr : AfterStep rest) (hstop : separator rest = none) :
    Reads (locationPath (Grammar.single (depth + 1)))
      (joined ['/'] (Expr.stepTexts spelling ss) ++ rest) (.path .context ss) rest := by
  obtain ⟨s, ss, rfl⟩ := List.exists_cons_of_ne_nil hne
  obtain ⟨left, left', hl, hstep, hmore⟩ := steps_append htest hps hr hstop
  have hslash := ends_slash_steps spelling s ss rest
  refine ⟨left', hl, ?_⟩
  simp [locationPath, afterPrefix?_of_ends hslash, hstep, hmore]

theorem locationPath_of_root (htest : ∀ t ∈ ss, t.test.Lexical)
    (hps : ∀ t ∈ ss, ∀ p ∈ t.predicates, Readable (Grammar.single depth) .sequence
      (p.textAt spelling .sequence) p)
    {rest : List Char} (hr : AfterStep rest) (hstop : separator rest = none) :
    Reads (locationPath (Grammar.single (depth + 1)))
      ('/' :: (joined ['/'] (Expr.stepTexts spelling ss) ++ rest)) (.path .root ss) rest := by
  cases ss with
  | nil =>
    have hslash := ends_of_separator hstop
    have hnone := optional?_of_none _ _ (step_of_clear (Grammar.single (depth + 1)) hr.clear)
    have hmore : moreSteps (Grammar.single (depth + 1)) rest = some ([], rest) :=
      Readable.moreSteps_of_stop (.refl rest) hstop
    refine .of_eq ?_
    simp [Expr.stepTexts, joined, locationPath, afterPrefix?, afterPrefix?_of_ends hslash, hnone,
      hmore]
  | cons s ss =>
    obtain ⟨left, left', hl, hstep, hmore⟩ := steps_append htest hps hr hstop
    have hslash := ends_slash_steps spelling s ss rest
    refine ⟨left', hl, ?_⟩
    simp [locationPath, afterPrefix?, afterPrefix?_of_ends hslash, optional?_of_some _ _ hstep,
      hmore]

theorem tight_steps (hne : ss ≠ []) (htest : ∀ t ∈ ss, t.test.Lexical) :
    Tight (joined ['/'] (Expr.stepTexts spelling ss)) := by
  obtain ⟨s, ss, rfl⟩ := List.exists_cons_of_ne_nil hne
  rw [joined_steps]
  refine (tight_step (htest s List.mem_cons_self)).append_flatMap fun t ht => ?_
  exact (Tight.singleton (by decide)).append (tight_step (htest t (List.mem_cons_of_mem _ ht))) []

namespace Readable

theorem of_context (hne : ss ≠ []) (htest : ∀ t ∈ ss, t.test.Lexical)
    (hps : ∀ t ∈ ss, ∀ p ∈ t.predicates, Readable (Grammar.single depth) .sequence
      (p.textAt spelling .sequence) p) :
    Readable (Grammar.single (depth + 1)) .path (Expr.text spelling (.path .context ss))
      (.path .context ss) := by
  have htext : Expr.text spelling (.path .context ss) =
      joined ['/'] (Expr.stepTexts spelling ss) := by
    rw [Expr.text, Origin.text, List.nil_append]
  obtain ⟨s, ts, hss⟩ := List.exists_cons_of_ne_nil hne
  rw [htext]
  refine ⟨tight_steps hne htest, fun _ => ?_, fun _ => ?_, fun rest hf => ?_⟩
  · rw [hss, joined_steps]
    exact ends_step s (beq_of_isNameStart (by decide)) _
  · rw [hss, joined_steps]
    obtain ⟨a, test, ps⟩ := s
    rw [Step.text, List.append_assoc]
    exact quiet_of_colon (isName_keyword a) _
  · have hstop : separator rest = none := hf.stops .path (by decide)
    refine reads_path ((locationPath_of_context hne htest hps hf.afterStep hstop).or_right ?_) hstop
    rw [hss, joined_steps, List.append_assoc]
    exact filtered_of_step _ s _

theorem of_root (htest : ∀ t ∈ ss, t.test.Lexical)
    (hps : ∀ t ∈ ss, ∀ p ∈ t.predicates, Readable (Grammar.single depth) .sequence
      (p.textAt spelling .sequence) p) :
    Readable (Grammar.single (depth + 1)) .path (Expr.text spelling (.path .root ss))
      (.path .root ss) := by
  have htext : Expr.text spelling (.path .root ss) =
      '/' :: joined ['/'] (Expr.stepTexts spelling ss) := by
    rw [Expr.text, Origin.text]
    rfl
  rw [htext]
  refine ⟨?_, fun _ => ends_cons (by decide) _, fun _ => ?_, fun rest hf => ?_⟩
  · by_cases hne : ss = []
    · rw [hne]
      exact .singleton (by decide)
    · exact (Tight.singleton (c := '/') (by decide)).append (tight_steps hne htest) []
  · exact quiet_of_ends (solid_cons (by decide) _) (ends_cons (by decide) _)
  · have hstop : separator rest = none := hf.stops .path (by decide)
    exact reads_path ((locationPath_of_root htest hps hf.afterStep hstop).or_right
      (filtered_of_slash _ _)) hstop

/-- steps behind an expression continue it -/
theorem of_continued {e : Expr} (he : Readable (Grammar.single (depth + 1)) .filter
      (e.textAt spelling .filter) e) (hne : ss ≠ []) (htest : ∀ t ∈ ss, t.test.Lexical)
    (hps : ∀ t ∈ ss, ∀ p ∈ t.predicates, Readable (Grammar.single depth) .sequence
      (p.textAt spelling .sequence) p) :
    Readable (Grammar.single (depth + 1)) .path (Expr.text spelling (.path (.value e) ss))
      (e.continued ss) := by
  have htext : Expr.text spelling (.path (.value e) ss) =
      e.textAt spelling .filter ++ '/' :: joined ['/'] (Expr.stepTexts spelling ss) := by
    rw [Expr.text, Origin.text, List.append_assoc]
    rfl
  have hslashed : '/' :: joined ['/'] (Expr.stepTexts spelling ss) =
      ss.flatMap (slashed spelling) := by
    obtain ⟨s, ts, rfl⟩ := List.exists_cons_of_ne_nil hne
    rw [joined_steps]
    rfl
  rw [htext]
  refine ⟨he.tight.append (tight_steps hne htest) ['/'], fun _ => ?_, fun _ => ?_, fun rest hf => ?_⟩
  · exact (he.unsigned (by decide)).append he.tight.ne_nil _
  · exact (he.quiet (by decide)).append fun _ => rfl
  · have hstop : separator rest = none := hf.stops .path (by decide)
    rw [List.append_assoc, List.cons_append]
    obtain ⟨left, hl, hp⟩ := he.reads _ (Level.follow_slash _)
    rw [← List.cons_append, hslashed] at hl hp
    obtain ⟨left', hl', hmore⟩ := moreSteps_slashed htest hps hf.afterStep hstop hl
    have hp' : (filtered (Grammar.single (depth + 1)) <|> locationPath (Grammar.single (depth + 1)))
        (e.textAt spelling .filter ++ (ss.flatMap (slashed spelling) ++ rest)) = some (e, left) := by
      rw [orElse_apply]
      show (Level.filter.scan _ _).or _ = _
      rw [hp]
      rfl
    refine ⟨left', hl', ?_⟩
    rw [← List.cons_append, hslashed]
    show Grammar.path _ _ = _
    unfold Grammar.path
    rw [bind_apply, hp', Option.bind_some, bind_apply, hmore, Option.bind_some]
    obtain ⟨s, ts, rfl⟩ := List.exists_cons_of_ne_nil hne
    cases e <;> rfl

/-! ## filters -/

theorem of_filter {base : Expr} {ps : List Expr}
    (hbase : Readable (Grammar.single (depth + 1)) .primary (base.textAt spelling .primary) base)
    (hne : ps ≠ []) (hps : ∀ p ∈ ps, Readable (Grammar.single depth) .sequence
      (p.textAt spelling .sequence) p) :
    Readable (Grammar.single (depth + 1)) .filter (Expr.text spelling (.filter base ps))
      (.filter base ps) := by
  have htext : Expr.text spelling (.filter base ps) =
      base.textAt spelling .primary ++ Expr.predicateText spelling ps := by
    rw [Expr.text]
    rfl
  obtain ⟨p, qs, hpq⟩ := List.exists_cons_of_ne_nil hne
  rw [htext]
  refine ⟨?_, fun _ => ?_, fun _ => ?_, fun rest hf => ?_⟩
  · rw [Expr.predicateText_eq]
    exact hbase.tight.append_flatMap fun q _ => tight_predicate _
  · exact (hbase.unsigned (by decide)).append hbase.tight.ne_nil _
  · refine (hbase.quiet (by decide)).append fun _ => ?_
    rw [hpq]
    rfl
  · have hfollow : Level.primary.Follow (Expr.predicateText spelling ps ++ rest) := by
      rw [hpq]
      exact Level.follow_predicate _
    obtain ⟨left, hl, hp⟩ := hbase.reads _ hfollow
    obtain ⟨left', hl', hcollect⟩ := collect_predicates hps (hf.stops .filter (by decide)) hl
    refine ⟨left', hl', ?_⟩
    rw [List.append_assoc]
    show filtered _ _ = _
    unfold filtered
    rw [bind_apply]
    show (Level.primary.scan _ _).bind _ = _
    rw [hp, Option.bind_some, bind_apply, many_apply, hcollect, hpq]
    rfl

end Readable

end

end Rulebook
