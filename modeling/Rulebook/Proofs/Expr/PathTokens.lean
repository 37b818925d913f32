import Rulebook.Proofs.Expr.PathFirst

/-!
# Tokens of paths

Separators and plain names, with any blanks before each of them, and the paths that they stand for.

* `PathToken`      a separator or a name, `SpacedToken` with the blanks before it;
* `Apart`          tokens with a text of their own: no two names meet, and a blank stands between two
                   separators;
* `stepsOf?`       the steps that tokens stand for behind a name, if they are steps;
* `pathOf?`        the path that tokens stand for, if they are one;
* `StepsRead`      all of the tokens are read as their steps, or what is left begins with a separator
                   that no step follows.

`exists_moreSteps_pathText`: **the tokens behind a name are read as steps as far as they are steps**,
by induction on the tokens, a separator and its name at a time.
-/

set_option autoImplicit false

namespace Rulebook

open Text Scan Grammar

/-! ## tokens -/

inductive PathToken where
  /-- `//` if deep, else `/` -/
  | separator (deep : Bool)
  /-- the step to the children with a name -/
  | name (qualifier : Option String) (localPart : String)

/-- a token and the blanks before it -/
structure SpacedToken where
  gap : List Char
  token : PathToken

namespace PathToken

def text : PathToken → List Char
  | separator true => ['/', '/']
  | separator false => ['/']
  | name qualifier localPart => (NodeTest.named qualifier localPart).text

def Lexical : PathToken → Prop
  | separator _ => True
  | name qualifier localPart => (NodeTest.named qualifier localPart).Lexical

end PathToken

/-- the texts of tokens with their blanks -/
def pathText (ts : List SpacedToken) : List Char := ts.flatMap fun t => t.gap ++ t.token.text

@[simp] theorem pathText_nil : pathText [] = [] := rfl

theorem pathText_cons (t : SpacedToken) (ts : List SpacedToken) :
    pathText (t :: ts) = t.gap ++ (t.token.text ++ pathText ts) := by
  unfold pathText
  rw [List.flatMap_cons, List.append_assoc]

/-- tokens that may stand behind another: no two names meet, nor two separators without a blank -/
def Apart : PathToken → List SpacedToken → Prop
  | _, [] => True
  | .name .., ⟨_, .name ..⟩ :: _ => False
  | .separator _, ⟨gap, .separator deep⟩ :: ts => gap ≠ [] ∧ Apart (.separator deep) ts
  | _, t :: ts => Apart t.token ts

/-- blanks and names where they belong -/
structure SpacedToken.Lexical (t : SpacedToken) : Prop where
  gap : t.gap.all isSpace = true
  token : t.token.Lexical

def Spelled : List SpacedToken → Prop
  | [] => True
  | t :: ts => (∀ u ∈ t :: ts, u.Lexical) ∧ Apart t.token ts

/-! ## the paths that tokens stand for -/

def childNamed (qualifier : Option String) (localPart : String) : Step :=
  ⟨.child, .named qualifier localPart, []⟩

/-- steps, each behind a separator -/
def stepsOf? : List PathToken → Option (List Step)
  | [] => some []
  | .separator deep :: .name q l :: ts =>
    (stepsOf? ts).map fun ss => behind (deep, childNamed q l) ++ ss
  | _ => none

/-- a name or a separator first, then names and separators in turn; `/` may stand alone -/
def pathOf? : List PathToken → Option Expr
  | [] => none
  | .name q l :: ts => (stepsOf? ts).map fun ss => .path .context (childNamed q l :: ss)
  | [.separator false] => some (.path .root [])
  | ts => (stepsOf? ts).map (.path .root)

theorem pathOf?_separator (deep : Bool) (q : Option String) (l : String) (ts : List PathToken) :
    pathOf? (.separator deep :: .name q l :: ts) =
      (stepsOf? ts).map fun ss => .path .root (behind (deep, childNamed q l) ++ ss) := by
  have hsteps : pathOf? (.separator deep :: .name q l :: ts) =
      (stepsOf? (.separator deep :: .name q l :: ts)).map (.path .root) := by simp [pathOf?]
  rw [hsteps, stepsOf?, Option.map_map]
  rfl

/-! ## names and separators -/

section
variable {q : Option String} {l : String} {gap cs rest : List Char} {ts : List SpacedToken}

theorem axis_of_named (h : (NodeTest.named q l).Lexical) (hr : Clear rest) :
    axis ((NodeTest.named q l).text ++ rest) = none := by
  have hcolon : ∀ {cs : List Char}, Ends (· == ':') cs → Scan.text "::" cs = none := by
    intro cs hcs
    rw [text_apply]
    show (afterPrefix? [':', ':'] cs).map _ = none
    rw [afterPrefix?_of_ends hcs]
    rfl
  cases q with
  | none => exact axis_of_name (isNameChar_of_isName h.2) hr.ends_name (hcolon hr.ends_colon)
  | some q =>
    rw [NodeTest.text, List.append_assoc]
    refine axis_of_name (isNameChar_of_isName (h.1 q rfl)) (ends_cons (by decide) _) ?_
    -- one colon joins the two names
    have hl := ends_of_isName h.2 (beq_of_isNameStart (d := ':') (by decide)) rest
    rw [text_apply]
    show (afterPrefix? [':'] (l.toList ++ rest)).map _ = none
    rw [afterPrefix?_of_ends hl]
    rfl

theorem reads_childNamed (single : Scan Expr) (h : (NodeTest.named q l).Lexical)
    (hr : AfterStep rest) :
    Reads (step single) ((NodeTest.named q l).text ++ rest) (childNamed q l) rest := by
  obtain ⟨left, hl, hp⟩ := nodeTest_append h hr.clear hr.notOpen
  have hdot := h.ends_beq (d := '.') (by decide) rest
  have hat := h.ends_beq (d := '@') (by decide) rest
  have hnone := optional?_of_none _ _ (axis_of_named h hr.clear)
  have hstart : stepStart ((NodeTest.named q l).text ++ rest) =
      some ((.child, .named q l), left) := by
    simp [stepStart, afterPrefix?_of_ends hdot, char_of_ends hat, hnone, hp]
  refine ⟨left, hl, ?_⟩
  simp [step, hstart, collect_of_none (Readable.predicate_of_stop hl hr.noPredicate), childNamed]

theorem separator_gap (hgap : gap.all isSpace = true) (deep : Bool) (hcs : Ends (· == '/') cs) :
    separator (gap ++ ((PathToken.separator deep).text ++ cs)) = some (deep, skip cs) := by
  unfold separator
  rw [spaced_apply, skip_append_of_all hgap]
  cases deep with
  | true => rfl
  | false => simp [PathToken.text, skip_cons, isSpace, afterPrefix?, afterPrefix?_of_ends hcs]

/-- a text with blanks before it begins with no separator -/
theorem ends_slash_gap (hgap : gap.all isSpace = true)
    (h : gap ≠ [] ∨ Ends (· == '/') cs) : Ends (· == '/') (gap ++ cs) := by
  cases gap with
  | nil => exact h.resolve_left fun hne => hne rfl
  | cons c gap =>
    rw [List.all_cons, Bool.and_eq_true] at hgap
    refine ends_cons ?_ _
    rw [beq_eq_false_iff_ne]
    rintro rfl
    exact absurd hgap.1 (by decide)

theorem clear_gap (hgap : gap.all isSpace = true) (hne : gap ≠ []) (cs : List Char) :
    Clear (gap ++ cs) := by
  obtain ⟨c, gap, rfl⟩ := List.exists_cons_of_ne_nil hne
  rw [List.all_cons, Bool.and_eq_true] at hgap
  exact clear_cons (mem_separators_of_isSpace hgap.1) _

theorem atSlash_pathText (hlex : ∀ t ∈ ts, t.Lexical) (h : Apart (.name q l) ts) :
    AtSlash (pathText ts) := by
  match ts, h with
  | [], _ => exact .inl rfl
  | ⟨gap, .separator deep⟩ :: ts, _ =>
    have hgap : gap.all isSpace = true := (hlex _ List.mem_cons_self).gap
    right
    rw [pathText_cons, skip_append_of_all hgap]
    cases deep <;> exact ⟨_, rfl⟩

end

/-! ## further steps -/

/-- what steps are read from tokens and what is left: nothing if all of them are steps -/
def StepsRead (single : Scan Expr) (tokens : List PathToken) (ss : List Step)
    (left : List Char) : Prop :=
  stepsOf? tokens = some ss ∧ left = [] ∨
    stepsOf? tokens = none ∧ moreSteps single left = some ([], left) ∧ ∃ cs, skip left = '/' :: cs

section
variable {single : Scan Expr} {tokens : List PathToken} {ss : List Step} {cs left : List Char}

theorem StepsRead.atSlash (h : StepsRead single tokens ss left) : AtSlash left := by
  rcases h with ⟨-, h⟩ | ⟨-, -, h⟩
  · exact .inl h
  · exact .inr h

theorem moreSteps_of_none (h : slashStep single cs = none) :
    moreSteps single cs = some ([], cs) := by
  rw [moreSteps_apply, collect_of_none h]
  rfl

theorem StepsRead.moreSteps_eq (h : StepsRead single tokens ss left) :
    moreSteps single left = some ([], left) := by
  rcases h with ⟨-, rfl⟩ | ⟨-, h, -⟩
  · exact moreSteps_of_none rfl
  · exact h

theorem moreSteps_of_some {rest : List Char} {x : Bool × Step}
    (h : slashStep single cs = some (x, rest)) (hlt : rest.length < cs.length)
    (hmore : moreSteps single rest = some (ss, left)) :
    moreSteps single cs = some (behind x ++ ss, left) := by
  rw [moreSteps_apply] at hmore ⊢
  cases hmore
  rw [collect_of_some h hlt]
  rfl

/-- a separator that no step follows ends the steps -/
theorem stepsRead_stop {gap : List Char} {deep : Bool} (hgap : gap.all isSpace = true)
    (hcs : Ends (· == '/') cs) (hstep : step single (skip cs) = none)
    (htokens : stepsOf? tokens = none)
    (hl : Loose (gap ++ ((PathToken.separator deep).text ++ cs)) left) :
    ∃ ss left', moreSteps single left = some (ss, left') ∧ StepsRead single tokens ss left' := by
  have hnone : slashStep single left = none := by
    unfold slashStep
    rw [bind_apply, separator, hl.spaced_eq, ← separator, separator_gap hgap deep hcs,
      Option.bind_some, bind_apply, hstep]
    rfl
  refine ⟨[], left, moreSteps_of_none hnone, .inr ⟨htokens, moreSteps_of_none hnone, ?_⟩⟩
  rw [hl.skip_eq, skip_append_of_all hgap]
  cases deep <;> exact ⟨_, rfl⟩

end

theorem exists_slashStep (single : Scan Expr) {gap gap' cs left : List Char} {deep : Bool}
    {q : Option String} {l : String} (hgap : gap.all isSpace = true) (hgap' : gap'.all isSpace = true)
    (hname : (NodeTest.named q l).Lexical) (hcs : AtSlash cs)
    (hl : Loose (gap ++ ((PathToken.separator deep).text ++
      (gap' ++ ((NodeTest.named q l).text ++ cs)))) left) :
    ∃ rest, Loose cs rest ∧ slashStep single left = some ((deep, childNamed q l), rest) ∧
      rest.length < left.length := by
  have hsolid : Solid ((NodeTest.named q l).text ++ cs) := (tight_nodeTest hname).solid.append _
  have hends := ends_slash_gap hgap' (.inr (hname.ends_beq (by decide) cs))
  obtain ⟨rest, hrest, hp⟩ := reads_childNamed single hname hcs.afterStep
  refine ⟨rest, hrest, ?_, ?_⟩
  · unfold slashStep
    rw [bind_apply, separator, hl.spaced_eq, ← separator, separator_gap hgap deep hends,
      Option.bind_some, bind_apply, skip_append_of_all hgap', hsolid.skip_eq, hp]
    rfl
  · have hskip := length_skip_le left
    rw [hl.skip_eq, skip_append_of_all hgap] at hskip
    have hle := hrest.length_le
    cases deep <;> simp [PathToken.text, skip_cons, isSpace] at hskip <;> omega

/-- Behind a name comes a separator.  If a name comes next, the two are a step and the same holds of
the tokens behind it; if nothing or another separator does, no step follows and the steps end. -/
theorem exists_moreSteps_pathText (single : Scan Expr) :
    ∀ {ts : List SpacedToken} {q : Option String} {l : String}, (∀ t ∈ ts, t.Lexical) →
      Apart (.name q l) ts → ∀ left, Loose (pathText ts) left →
      ∃ ss left', moreSteps single left = some (ss, left') ∧
        StepsRead single (ts.map (·.token)) ss left'
  | [], _, _, _, _, left, hl => by
    obtain rfl : left = [] := hl.eq_nil
    exact ⟨[], [], moreSteps_of_none rfl, .inl ⟨rfl, rfl⟩⟩
  | [⟨gap, .separator deep⟩], _, _, hlex, _, left, hl => by
    have hgap : gap.all isSpace = true := (hlex _ List.mem_cons_self).gap
    rw [pathText_cons, pathText_nil] at hl
    exact stepsRead_stop hgap (ends_nil _) rfl rfl hl
  | ⟨gap, .separator deep⟩ :: ⟨gap', .separator deep'⟩ :: ts, _, _, hlex, hapart, left, hl => by
    have hgap : gap.all isSpace = true := (hlex _ List.mem_cons_self).gap
    have hgap' : gap'.all isSpace = true :=
      (hlex _ (List.mem_cons_of_mem _ List.mem_cons_self)).gap
    rw [pathText_cons, pathText_cons] at hl
    refine stepsRead_stop hgap (ends_slash_gap hgap' (.inl hapart.1)) ?_ rfl hl
    rw [skip_append_of_all hgap']
    cases deep' <;> rfl
  | ⟨gap, .separator deep⟩ :: ⟨gap', .name q l⟩ :: ts, _, _, hlex, hapart, left, hl => by
    have hgap : gap.all isSpace = true := (hlex _ List.mem_cons_self).gap
    have hname := hlex _ (List.mem_cons_of_mem _ List.mem_cons_self)
    have hts : ∀ t ∈ ts, t.Lexical :=
      fun t ht => hlex t (List.mem_cons_of_mem _ (List.mem_cons_of_mem _ ht))
    have hrest : Apart (.name q l) ts := hapart
    rw [pathText_cons, pathText_cons] at hl
    obtain ⟨rest, hloose, hstep, hlt⟩ :=
      exists_slashStep single hgap hname.gap hname.token (atSlash_pathText hts hrest) hl
    obtain ⟨ss, left', hmore, hread⟩ := exists_moreSteps_pathText single hts hrest rest hloose
    refine ⟨_, left', moreSteps_of_some hstep hlt hmore, ?_⟩
    rcases hread with ⟨hsteps, rfl⟩ | ⟨hsteps, hstop, hslash⟩
    · exact .inl ⟨by simp [stepsOf?, hsteps], rfl⟩
    · exact .inr ⟨by simp [stepsOf?, hsteps], hstop, hslash⟩

/-! ## whole paths -/

section
variable {q : Option String} {l : String} {ts : List SpacedToken}

/-- a step, and those behind it -/
theorem exists_step_pathText (single : Scan Expr) (h : (NodeTest.named q l).Lexical)
    (hts : ∀ t ∈ ts, t.Lexical) (hapart : Apart (.name q l) ts) :
    ∃ rest ss left, step single ((NodeTest.named q l).text ++ pathText ts) =
        some (childNamed q l, rest) ∧
      moreSteps single rest = some (ss, left) ∧ StepsRead single (ts.map (·.token)) ss left := by
  obtain ⟨rest, hrest, hstep⟩ := reads_childNamed single h (atSlash_pathText hts hapart).afterStep
  obtain ⟨ss, left, hmore, hread⟩ := exists_moreSteps_pathText single hts hapart rest hrest
  exact ⟨rest, ss, left, hstep, hmore, hread⟩

theorem locationPath_of_named (single : Scan Expr) (h : (NodeTest.named q l).Lexical)
    (hts : ∀ t ∈ ts, t.Lexical) (hapart : Apart (.name q l) ts) :
    ∃ ss left, StepsRead single (ts.map (·.token)) ss left ∧
      locationPath single ((NodeTest.named q l).text ++ pathText ts) =
        some (.path .context (childNamed q l :: ss), left) := by
  obtain ⟨rest, ss, left, hstep, hmore, hread⟩ := exists_step_pathText single h hts hapart
  have hslash := h.ends_beq (d := '/') (by decide) (pathText ts)
  refine ⟨ss, left, hread, ?_⟩
  simp [locationPath, afterPrefix?_of_ends hslash, hstep, hmore]

theorem locationPath_of_separator (single : Scan Expr) (deep : Bool)
    (h : (NodeTest.named q l).Lexical) (hts : ∀ t ∈ ts, t.Lexical) (hapart : Apart (.name q l) ts) :
    ∃ ss left, StepsRead single (ts.map (·.token)) ss left ∧
      locationPath single ((PathToken.separator deep).text ++
          ((NodeTest.named q l).text ++ pathText ts)) =
        some (.path .root (behind (deep, childNamed q l) ++ ss), left) := by
  obtain ⟨rest, ss, left, hstep, hmore, hread⟩ := exists_step_pathText single h hts hapart
  have hslash := h.ends_beq (d := '/') (by decide) (pathText ts)
  refine ⟨ss, left, hread, ?_⟩
  cases deep with
  | true => simp [locationPath, PathToken.text, afterPrefix?, behind, hstep, hmore]
  | false =>
    have hoptional := optional?_of_some _ _ hstep
    simp [locationPath, PathToken.text, afterPrefix?, afterPrefix?_of_ends hslash, behind, hoptional,
      hmore]

end

end Rulebook
