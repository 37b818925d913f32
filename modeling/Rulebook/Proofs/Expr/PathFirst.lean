import Rulebook.Proofs.Expr.Paths

/-!
# Where an expression begins with a path

A name that is no call, and a separator, can only be the beginning of a path.

* `AtSlash`      the end of a text, or a separator: what may follow the path of a whole text;
* `PathFirst`    where none but a path of steps begins;
* `Heads`        what is read there is this path, or something that is no path.

`PathFirst.reads_expression`: **a path in front of the end or of a separator is a whole expression**;
`PathFirst.heads`: whatever follows it, no other path is read.
-/

set_option autoImplicit false

namespace Rulebook

open Text Scan Grammar

/-! ## rests of paths -/

/-- the end, or a separator with blanks before it -/
def AtSlash (rest : List Char) : Prop := rest = [] ∨ ∃ cs, skip rest = '/' :: cs

/-- what has nothing to do with separators does not see them -/
theorem AtSlash.spaced_eq {α : Type} {p : Scan α} {rest : List Char} (h : AtSlash rest)
    (hnil : p [] = none) (hslash : ∀ cs, p ('/' :: cs) = none) : spaced p rest = none := by
  rw [spaced_apply]
  rcases h with rfl | ⟨cs, h⟩
  · rw [skip_nil, hnil]
    rfl
  · rw [h, hslash]
    rfl

theorem mem_separators_of_isSpace {c : Char} (h : isSpace c = true) : c ∈ separators := by
  simp only [isSpace, Bool.or_eq_true, beq_iff_eq] at h
  rcases h with ((rfl | rfl) | rfl) | rfl <;> decide

theorem AtSlash.clear {rest : List Char} (h : AtSlash rest) : Clear rest := by
  rcases h with rfl | ⟨cs, h⟩
  · exact clear_nil
  · cases rest with
    | nil => exact clear_nil
    | cons c rest =>
      cases hc : isSpace c with
      | true => exact clear_cons (mem_separators_of_isSpace hc) rest
      | false =>
        rw [skip_cons hc] at h
        cases h
        exact clear_cons (by decide) _

theorem AtSlash.afterStep {rest : List Char} (h : AtSlash rest) : AfterStep rest :=
  ⟨h.clear, h.spaced_eq rfl fun _ => rfl, h.spaced_eq rfl fun _ => rfl⟩

/-! ## where only paths begin -/

/-- an expression there begins with a path, and that with a step or a separator -/
structure PathFirst (single : Scan Expr) (cs : List Char) : Prop where
  solid : Solid cs
  unsigned : Ends (· == '-') cs
  conditional : conditional single cs = none
  quantified : quantified single cs = none
  filtered : filtered single cs = none

section
variable {single : Scan Expr} {cs left : List Char} {e : Expr}

theorem PathFirst.path_eq (h : PathFirst single cs) (hpath : locationPath single cs = some (e, left))
    (hmore : moreSteps single left = some ([], left)) :
    Grammar.path single cs = some (e, left) := by
  unfold Grammar.path
  rw [bind_apply, orElse_apply, h.filtered, Option.none_or, hpath, Option.bind_some, bind_apply,
    hmore]
  rfl

/-- a path in front of nothing or of a separator that does not go it on is a whole expression -/
theorem PathFirst.reads_expression (h : PathFirst single cs) (hleft : AtSlash left)
    (hpath : Grammar.path single cs = some (e, left)) :
    Reads (expression (singleBody single)) cs e left := by
  have hunion : Reads (Grammar.union single) cs e left :=
    chain_of_stop (.of_eq hpath) (hleft.spaced_eq rfl fun _ => rfl)
  have hproduct : Reads (Grammar.product single) cs e left :=
    chain_of_stop (Readable.reads_signed h.solid h.unsigned hunion)
      (hleft.spaced_eq rfl fun _ => rfl)
  have hsum : Reads (Grammar.sum single) cs e left :=
    chain_of_stop hproduct (hleft.spaced_eq rfl fun _ => rfl)
  have hrange : Reads (Grammar.range single) cs e left :=
    Readable.reads_range hsum (hleft.spaced_eq rfl fun _ => rfl)
  have hrelational : Reads (relational single) cs e left :=
    chain_of_stop hrange (hleft.spaced_eq rfl fun _ => rfl)
  have hequality : Reads (Grammar.equality single) cs e left :=
    chain_of_stop hrelational (hleft.spaced_eq rfl fun _ => rfl)
  have hconjunction : Reads (Grammar.conjunction single) cs e left :=
    chain_of_stop hequality (hleft.spaced_eq rfl fun _ => rfl)
  have hdisjunction : Reads (Grammar.disjunction single) cs e left :=
    chain_of_stop hconjunction (hleft.spaced_eq rfl fun _ => rfl)
  refine Readable.reads_expression ?_ (hleft.spaced_eq rfl fun _ => rfl)
  obtain ⟨left', hl, hp⟩ := hdisjunction
  refine ⟨left', hl, ?_⟩
  simp [singleBody, h.conditional, h.quantified, hp]

/-! ### whatever follows a path -/

/-- gives this expression, or one that is not a path -/
def Heads (p : Scan Expr) (cs : List Char) (e : Expr) : Prop :=
  ∀ x ∈ p cs, x.1 = e ∨ x.1.isPath = false

theorem linked_eq_or (e : Expr) (links : List (BinaryOp × Expr)) :
    e.linked links = e ∨ (e.linked links).isPath = false := by
  induction links generalizing e with
  | nil => exact .inl rfl
  | cons x links ih =>
    right
    rcases ih (.binary x.1 e x.2) with h | h
    · show ((Expr.binary x.1 e x.2).linked links).isPath = false
      rw [h]
      rfl
    · exact h

theorem Heads.chain {op : Scan BinaryOp} {operand : Scan Expr} (h : Heads operand cs e) :
    Heads (chain op operand) cs e := by
  intro x hx
  cases hp : operand cs with
  | none => rw [chain_of_none hp] at hx; nomatch hx
  | some y =>
    rw [chain_apply hp] at hx
    cases hx
    rcases linked_eq_or y.1 (collect (link op operand) y.2).1 with hlinked | hlinked
    · rw [hlinked]
      exact h y hp
    · exact .inr hlinked

theorem Heads.range (h : Heads (Grammar.sum single) cs e) : Heads (Grammar.range single) cs e := by
  intro x hx
  unfold Grammar.range at hx
  rw [bind_apply] at hx
  cases hp : Grammar.sum single cs with
  | none => rw [hp] at hx; nomatch hx
  | some y =>
    rw [hp, Option.bind_some, bind_apply] at hx
    cases hq : optional? (spaced (word "to") *> Grammar.sum single) y.2 with
    | none => rw [hq] at hx; nomatch hx
    | some z =>
      obtain ⟨last, left⟩ := z
      rw [hq] at hx
      cases last with
      | none => cases hx; exact h y hp
      | some last => cases hx; exact .inr rfl

theorem Heads.expression {p : Scan Expr} (h : Heads p cs e) : Heads (expression p) cs e := by
  intro x hx
  unfold Grammar.expression sepBy1 at hx
  rw [bind_apply, bind_apply] at hx
  cases hp : p cs with
  | none => rw [hp] at hx; nomatch hx
  | some y =>
    rw [hp, Option.bind_some, bind_apply, many_apply] at hx
    rcases hc : collect (comma *> p) y.2 with ⟨_ | ⟨item, items⟩, left⟩
    · rw [hc] at hx
      cases hx
      exact h y hp
    · rw [hc] at hx
      cases hx
      exact .inr rfl

/-- operators and commas may go on behind a path, but then it is not a path any more -/
theorem PathFirst.heads (h : PathFirst single cs) (hpath : Grammar.path single cs = some (e, left)) :
    Heads (expression (singleBody single)) cs e := by
  have hunion : Heads (Grammar.union single) cs e := by
    have hstart : Heads (Grammar.path single) cs e := by
      intro x hx
      rw [hpath] at hx
      cases hx
      exact .inl rfl
    exact hstart.chain
  have hsigned : Heads (signed single) cs e := by
    intro x hx
    unfold signed at hx
    rw [bind_apply, Readable.minusSigns_of_ends h.solid h.unsigned, Option.bind_some,
      bind_apply] at hx
    cases hp : Grammar.union single cs with
    | none => rw [hp] at hx; nomatch hx
    | some y =>
      rw [hp] at hx
      cases hx
      exact hunion y hp
  have hsum : Heads (Grammar.sum single) cs e := hsigned.chain.chain
  have hdisjunction : Heads (Grammar.disjunction single) cs e := hsum.range.chain.chain.chain.chain
  have hbody : singleBody single cs = Grammar.disjunction single cs := by
    simp [singleBody, h.conditional, h.quantified]
  have hsingle : Heads (singleBody single) cs e := fun x hx => hdisjunction x (hbody ▸ hx)
  exact hsingle.expression

end

/-! ## a name first -/

section
variable {q : Option String} {l : String} {rest : List Char}

theorem NodeTest.Lexical.ends (h : (NodeTest.named q l).Lexical) {p : Char → Bool}
    (hp : ∀ c, isNameStart c = true → p c = false) (rest : List Char) :
    Ends p ((NodeTest.named q l).text ++ rest) := by
  cases q with
  | none => exact ends_of_isName h.2 hp rest
  | some q =>
    rw [NodeTest.text, List.append_assoc]
    exact ends_of_isName (h.1 q rfl) hp _

/-- a name does not begin with a character that begins none -/
theorem NodeTest.Lexical.ends_beq (h : (NodeTest.named q l).Lexical) {d : Char}
    (hd : isNameStart d = false) (rest : List Char) :
    Ends (· == d) ((NodeTest.named q l).text ++ rest) :=
  h.ends (beq_of_isNameStart hd) rest

theorem isQualifiedName_named (h : (NodeTest.named q l).Lexical) :
    IsQualifiedName (String.ofList (NodeTest.named q l).text) := by
  cases q with
  | none =>
    left
    rw [String.toList_ofList]
    exact h.2
  | some q =>
    right
    refine ⟨q.toList, l.toList, h.1 q rfl, h.2, ?_⟩
    rw [String.toList_ofList]
    rfl

theorem call_of_named (single : Scan Expr) (h : (NodeTest.named q l).Lexical)
    (hr : AfterStep rest) : call single ((NodeTest.named q l).text ++ rest) = none := by
  have hread := qualifiedName_append (isQualifiedName_named h) hr.clear.ends_name hr.clear.ends_colon
  rw [String.toList_ofList] at hread
  unfold call
  rw [bind_apply, hread, Option.bind_some, bind_apply, lookAhead, hr.notOpen]
  rfl

theorem filtered_of_named (single : Scan Expr) (h : (NodeTest.named q l).Lexical)
    (hr : AfterStep rest) : filtered single ((NodeTest.named q l).text ++ rest) = none := by
  have hprimary : Grammar.primary single ((NodeTest.named q l).text ++ rest) = none := by
    rw [primary_of_name single ((tight_nodeTest h).solid.append rest) fun _ hp => h.ends hp rest,
      call_of_named single h hr]
    rfl
  unfold filtered
  rw [bind_apply, hprimary]
  rfl

theorem pathFirst_named (single : Scan Expr) (h : (NodeTest.named q l).Lexical)
    (hr : AtSlash rest) : PathFirst single ((NodeTest.named q l).text ++ rest) := by
  have hquiet : conditional single ((NodeTest.named q l).text ++ rest) = none ∧
      quantified single ((NodeTest.named q l).text ++ rest) = none := by
    cases q with
    | none =>
      have hends := hr.clear.ends_name
      exact ⟨conditional_of_name h.2 hends (hr.spaced_eq rfl fun _ => rfl),
        quantified_of_name h.2 hends (hr.spaced_eq rfl fun _ => rfl)⟩
    | some q => exact quiet_of_colon (h.1 q rfl) l.toList rest (hr.spaced_eq rfl fun _ => rfl)
  exact {
    solid := (tight_nodeTest h).solid.append rest
    unsigned := h.ends_beq (by decide) rest
    conditional := hquiet.1
    quantified := hquiet.2
    filtered := filtered_of_named single h hr.afterStep }

end

/-! ## a separator first -/

section
variable {single : Scan Expr} {cs left : List Char}

theorem pathFirst_slash (single : Scan Expr) (cs : List Char) : PathFirst single ('/' :: cs) where
  solid := solid_cons (by decide) cs
  unsigned := ends_cons (by decide) cs
  conditional := rfl
  quantified := rfl
  filtered := rfl

theorem locationPath_of_deep (hstep : step single cs = none) :
    locationPath single ('/' :: '/' :: cs) = none := by
  simp [locationPath, afterPrefix?, hstep]

/-- `//` needs a step directly behind it -/
theorem read_of_deep (h : Clear cs) : all? read? ('/' :: '/' :: cs) = none := by
  have hpath : Grammar.path (Grammar.single ('/' :: '/' :: cs).length) ('/' :: '/' :: cs) = none := by
    unfold Grammar.path
    rw [bind_apply, orElse_apply, filtered_of_slash, Option.none_or,
      locationPath_of_deep (step_of_clear _ h)]
    rfl
  have hbody := singleBody_of_none (solid_cons (by decide) _) (ends_cons (by decide) _)
    (quiet_of_ends (solid_cons (by decide) _) (ends_cons (by decide) _)) hpath
  have hread : read? ('/' :: '/' :: cs) = none := by
    unfold read? Grammar.expression sepBy1
    rw [bind_apply, bind_apply, Grammar.single, hbody]
    rfl
  unfold all?
  rw [hread]

/-- `/` without a step behind it is the root, wherever further steps begin -/
theorem locationPath_of_bare {ss : List Step} (hstep : step single cs = none)
    (hslash : Ends (· == '/') cs) (hmore : moreSteps single cs = some (ss, left)) :
    locationPath single ('/' :: cs) = some (.path .root ss, left) := by
  have hoptional := optional?_of_none _ _ hstep
  simp [locationPath, afterPrefix?, afterPrefix?_of_ends hslash, hoptional, hmore]

/-- `/` is all of the path where no separator follows -/
theorem read_ne_of_bare {ss : List Step} (hclear : Clear cs) (hslash : separator cs = none)
    (hne : ss ≠ []) : all? read? ('/' :: cs) ≠ some (.path .root ss) := by
  have hmore : moreSteps (Grammar.single ('/' :: cs).length) cs = some ([], cs) :=
    Readable.moreSteps_of_stop (.refl cs) hslash
  have hfirst := pathFirst_slash (Grammar.single ('/' :: cs).length) cs
  have hpath := hfirst.path_eq
    (locationPath_of_bare (step_of_clear _ hclear) (ends_of_separator hslash) hmore) hmore
  intro hall
  unfold all? at hall
  cases hread : read? ('/' :: cs) with
  | none => rw [hread] at hall; nomatch hall
  | some x =>
    obtain ⟨e, left⟩ := x
    rw [hread] at hall
    obtain rfl : e = .path .root ss := by
      cases left with
      | nil => cases hall; rfl
      | cons c left => nomatch hall
    rcases hfirst.heads hpath _ hread with heq | hnot
    · exact hne (by cases heq; rfl)
    · nomatch hnot

end

end Rulebook
