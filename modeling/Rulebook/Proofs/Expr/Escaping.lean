import Rulebook.Expr.Compiled
import Rulebook.Proofs.Expr.Lexemes
import Rulebook.Proofs.Text.Mirrors

/-!
# Comparisons written with entities

Comparisons may be written with `<` and `>` or with the entities of these.  What the rules of the
grammar read off a plain text they read off its entities.

* `Mirrors.relationalOp`    an angle bracket and its entity are the same operator;
* `Mirrors.singleBody`      a rule that contains expressions reads a character before each of them,
                            so texts that are longer by one are read alike if the shorter ones are;
* `mirrors_single`          by induction, the nesting of expressions ends in both texts alike.

`compile_escaped`: **plain texts and their entities are compiled alike.**
-/

set_option autoImplicit false

namespace Rulebook

open Text Scan

namespace Grammar

variable {k : Nat} {cs : List Char}

/-! ## tokens -/

theorem tame_isSpace : Tame isSpace := by decide

theorem tame_isNameStart : Tame isNameStart := by decide

theorem tame_isNameChar : Tame isNameChar := by decide

theorem tame_isDigit : Tame Number.isDigit := by decide

/-- what a text does not begin with its entities do not begin with either, `&` aside -/
theorem ends_entities {p : Char → Bool} {c : Char} (hc : p c = false) (hamp : p '&' = false)
    (cs : List Char) : Ends p (entities (c :: cs)) := by
  rcases entities_cons_cases c cs with ⟨-, heq⟩ | ⟨-, ds, heq⟩
  · rw [heq]
    exact ends_cons hc _
  · rw [heq]
    exact ends_cons hamp _

theorem quoted_of_not_mem {c : Char} (h : c ∉ cs) : quoted c (c :: cs) = none := by
  have hall : ∀ d ∈ cs, (d != c) = true := by
    intro d hd
    rw [bne_iff_ne]
    rintro rfl
    exact h hd
  unfold quoted
  rw [bind_apply, char, if_pos (beq_self_eq_true c), Option.bind_some, bind_apply, Scan.takeWhile,
    List.dropWhile_eq_nil_iff.mpr hall]
  rfl

namespace Advances

protected theorem word {w : String} (hw : w.toList ≠ []) : Advances 1 (word w) :=
  (Advances.text hw).bind fun _ => .notFollowedBy _

protected theorem name : Advances 1 name :=
  (Advances.satisfy isNameStart).bind fun _ => (Advances.takeWhile isNameChar).bind fun _ => .pure _

protected theorem qualifiedName : Advances 1 qualifiedName :=
  Advances.name.bind fun _ =>
    ((Advances.char ':').bind fun _ => Advances.name.to_zero).optional.bind fun _ => .pure _

end Advances

namespace Mirrors

protected theorem blanks : Mirrors k blanks blanks := by
  intro cs _ hcs
  rw [blanks_apply, blanks_apply]
  unfold skip
  rw [(tame_isSpace.cut_entities cs).2]
  exact same_some () (tame_isSpace.plain_dropWhile hcs) (List.dropWhile_suffix _)

protected theorem spaced {α : Type} {p p' : Scan α} (h : Mirrors k p p') :
    Mirrors k (spaced p) (spaced p') :=
  Mirrors.blanks.bind fun _ => h.bind fun _ => Mirrors.blanks.bind fun _ => .pure _

protected theorem word {w : String} (hw : w.toList.any isMark = false) :
    Mirrors k (word w) (word w) :=
  (Mirrors.text hw).bind fun _ => (satisfy_of_tame tame_isNameChar).notFollowedBy

protected theorem comma : Mirrors k comma comma := (Mirrors.char (by decide)).spaced

protected theorem name : Mirrors k name name :=
  (satisfy_of_tame tame_isNameStart).bind fun _ => (takeWhile_of_tame tame_isNameChar).bind fun _ =>
    .pure _

protected theorem afterColon :
    Mirrors k (optional? (Scan.char ':' *> name)) (optional? (Scan.char ':' *> name)) :=
  ((Mirrors.char (by decide)).seqRight .name).optional

protected theorem qualifiedName : Mirrors k qualifiedName qualifiedName :=
  Mirrors.name.bind fun _ => Mirrors.afterColon.bind fun _ => .pure _

protected theorem numeral : Mirrors k numeral numeral :=
  Mirrors.orElse
    ((takeWhile1_of_tame tame_isDigit).bind fun _ =>
      ((Mirrors.char (by decide)).seqRight (takeWhile_of_tame tame_isDigit)).optional.bind fun _ =>
        .pure _)
    ((Mirrors.char (by decide)).bind fun _ => (takeWhile1_of_tame tame_isDigit).bind fun _ => .pure _)

/-- there are no angle brackets to write as entities in a literal -/
protected theorem quoted {c : Char} (hc : isQuote c = true) : Mirrors k (quoted c) (quoted c) := by
  intro cs _ hcs
  have hnone {ds : List Char} (hds : Ends (· == c) ds) : quoted c ds = none := by
    unfold quoted
    rw [bind_apply, char_of_ends hds]
    rfl
  rcases cs with _ | ⟨d, cs⟩
  · exact same_none
  · by_cases hd : d = c
    · subst hd
      rw [entities_cons_of_not_angle (isAngle_of_isQuote hc)]
      rcases literal_cases hc ((plain_quote hc).mp hcs) with
        ⟨hmem, heq⟩ | ⟨body, rest, hmem, rfl, heq, hrest⟩
      · rw [heq, quoted_of_not_mem hmem]
        exact same_none
      · rw [heq, quoted_append hmem, quoted_append hmem]
        exact same_some _ hrest
          ((List.suffix_cons _ _).trans ((List.suffix_append _ _).trans (List.suffix_cons _ _)))
    · have hamp : ('&' == c) = false := by
        rw [isQuote, Bool.or_eq_true, beq_iff_eq, beq_iff_eq] at hc
        rcases hc with rfl | rfl <;> rfl
      have hfirst : (d == c) = false := beq_false_of_ne hd
      rw [hnone (ends_cons (p := (· == c)) hfirst cs),
        hnone (ends_entities (p := (· == c)) hfirst hamp cs)]
      exact same_none

protected theorem literal : Mirrors k literal literal :=
  (Mirrors.quoted rfl).orElse (.quoted rfl)

/-! ## node tests and axes -/

protected theorem kindTest : Mirrors k kindTest kindTest := by
  refine (Mirrors.choose ?_).bind fun _ => ?_
  · simp only [List.forall_mem_cons]
    exact ⟨.text rfl, .text rfl, .text rfl, .text rfl, nofun⟩
  · exact (Mirrors.char (by decide)).spaced.bind fun _ =>
      (Mirrors.char (by decide)).spaced.bind fun _ => .pure _

protected theorem nameTest : Mirrors k nameTest nameTest :=
  Mirrors.name.bind fun _ => Mirrors.afterColon.bind fun _ => .pure _

protected theorem nodeTest : Mirrors k nodeTest nodeTest :=
  first_cons ((Mirrors.char (by decide)).seqRight (.pure _)) <|
  first_cons (Mirrors.kindTest.map _) <|
  first_cons (Mirrors.name.bind fun _ => (Mirrors.text rfl).bind fun _ => .pure _) <|
  first_cons Mirrors.nameTest first_nil

protected theorem axis : Mirrors k axis axis := by
  refine (Mirrors.choose fun x hx => ?_).seqLeft (.text rfl)
  obtain ⟨a, -, rfl⟩ := List.mem_map.mp hx
  cases a <;> exact .text rfl

/-! ## operators -/

protected theorem orOp : Mirrors k orOp orOp := (Mirrors.word rfl).seqRight (.pure _)

protected theorem andOp : Mirrors k andOp andOp := (Mirrors.word rfl).seqRight (.pure _)

protected theorem unionOp : Mirrors k unionOp unionOp :=
  (Mirrors.char (by decide)).seqRight (.pure _)

protected theorem equalityOp : Mirrors k equalityOp equalityOp := by
  refine Mirrors.choose ?_
  simp only [List.forall_mem_cons]
  exact ⟨.text rfl, .text rfl, .word rfl, .word rfl, nofun⟩

protected theorem additiveOp : Mirrors k additiveOp additiveOp := by
  refine Mirrors.choose ?_
  simp only [List.forall_mem_cons]
  exact ⟨.char (by decide), .char (by decide), nofun⟩

protected theorem multiplicativeOp : Mirrors k multiplicativeOp multiplicativeOp := by
  refine Mirrors.choose ?_
  simp only [List.forall_mem_cons]
  exact ⟨.char (by decide), .word rfl, .word rfl, nofun⟩

end Mirrors

/-! ### relations -/

/-- an angle bracket and its entity are the same operator, also with an equality sign behind -/
theorem relationalOp_angle {c : Char} (hc : isAngle c = true) : ∃ strict orEqual : BinaryOp, ∀ cs,
    relationalOp (c :: cs) = some ((afterPrefix? ['='] cs).elim (strict, cs) fun rest =>
      (orEqual, rest)) ∧
    relationalOp (entity c ++ cs) = relationalOp (c :: cs) := by
  rw [isAngle, Bool.or_eq_true, beq_iff_eq, beq_iff_eq] at hc
  rcases hc with rfl | rfl
  · refine ⟨.general .lt, .general .le, fun cs => ?_⟩
    cases h : afterPrefix? ['='] cs <;> simp [relationalOp, afterPrefix?, entity, h]
  · refine ⟨.general .gt, .general .ge, fun cs => ?_⟩
    cases h : afterPrefix? ['='] cs <;> simp [relationalOp, afterPrefix?, entity, h]

/-- where no angle bracket stands in front, no sign is read but an entity that is there in both texts -/
theorem same_sign {c s : Char} {w cs : List Char} (hc : isAngle c = false) (h : Plain (c :: cs))
    (hs : isQuote s = false) (hw : w.any isMark = false) :
    Same (c :: cs) ((afterPrefix? (s :: w) (c :: cs)).map fun rest => ((), rest))
      ((afterPrefix? (s :: w) (entities (c :: cs))).map fun rest => ((), rest)) := by
  rw [entities_cons_of_not_angle hc, afterPrefix?, afterPrefix?]
  by_cases hsc : s = c
  · subst hsc
    rw [beq_self_eq_true, if_pos rfl, if_pos rfl]
    exact (same_afterPrefix? hw ((plain_cons hs).mp h)).mono (List.suffix_cons _ _)
  · rw [beq_false_of_ne hsc]
    exact same_none

protected theorem Mirrors.relationalOp : Mirrors k relationalOp relationalOp := by
  intro cs hk hcs
  rcases cs with _ | ⟨c, cs⟩
  · exact same_none
  · cases hc : isAngle c with
    | false =>
      -- neither `<` nor `>` can be read here, and an entity only if it is there already
      have hsign {s : Char} {w : List Char} := same_sign (s := s) (w := w) hc hcs
      refine same_choose ?_
      simp only [List.forall_mem_cons]
      exact ⟨hsign rfl rfl, hsign rfl rfl, hsign rfl rfl, hsign rfl rfl, hsign rfl rfl,
        hsign rfl rfl, hsign rfl rfl, hsign rfl rfl, Mirrors.word rfl _ hk hcs,
        Mirrors.word rfl _ hk hcs, Mirrors.word rfl _ hk hcs, Mirrors.word rfl _ hk hcs, nofun⟩
    | true =>
      obtain ⟨strict, orEqual, hop⟩ := relationalOp_angle hc
      have hplain : Plain cs := (plain_cons (isQuote_of_angle hc)).mp hcs
      rw [entities_cons, (hop _).2, (hop _).1, (hop _).1, afterPrefix?_entities rfl]
      cases hrest : afterPrefix? ['='] cs with
      | none => exact same_some strict hplain (List.suffix_cons _ _)
      | some rest =>
        obtain ⟨hrest, hsuffix⟩ := rest_of_afterPrefix? rfl hplain hrest
        exact same_some orEqual hrest (hsuffix.trans (List.suffix_cons _ _))

/-! ## rules that contain expressions -/

namespace Mirrors

variable {s s' : Scan Expr}

protected theorem chain {o : Scan BinaryOp} {p p' : Scan Expr} (ho : Mirrors k o o)
    (h : Mirrors k p p') : Mirrors k (chain o p) (chain o p') :=
  h.bind fun _ => (ho.spaced.bind fun _ => h.bind fun _ => .pure _).many.bind fun _ => .pure _

protected theorem between {α : Type} {p p' : Scan α} {l r : Char} (hl : isMark l = false)
    (hr : isMark r = false) (h : Mirrors k p p') :
    Mirrors (k + 1) (between l r p) (between l r p') :=
  (Mirrors.char hl).spaced.bind_of_advances (Advances.char l).spaced fun _ =>
    h.bind fun _ => (Mirrors.char hr).spaced.bind fun _ => .pure _

protected theorem expression (h : Mirrors k s s') : Mirrors k (expression s) (expression s') :=
  (Mirrors.comma.sepBy1 h).bind fun _ => .pure _

protected theorem predicate (h : Mirrors k s s') : Mirrors (k + 1) (predicate s) (predicate s') :=
  h.expression.between (by decide) (by decide)

/-! ### paths -/

protected theorem stepStart : Mirrors k stepStart stepStart :=
  first_cons ((Mirrors.text rfl).seqRight (.pure _)) <|
  first_cons ((Mirrors.text rfl).seqRight (.pure _)) <|
  first_cons ((Mirrors.char (by decide)).bind fun _ => Mirrors.nodeTest.bind fun _ => .pure _) <|
  first_cons (Mirrors.axis.optional.bind fun _ => Mirrors.nodeTest.bind fun _ => .pure _) first_nil

protected theorem step (h : Mirrors k s s') : Mirrors (k + 1) (step s) (step s') :=
  Mirrors.stepStart.bind fun _ => h.predicate.many.bind fun _ => .pure _

protected theorem separator : Mirrors k separator separator := by
  refine (Mirrors.choose ?_).spaced
  simp only [List.forall_mem_cons]
  exact ⟨.text rfl, .text rfl, nofun⟩

protected theorem moreSteps (h : Mirrors k s s') : Mirrors (k + 1) (moreSteps s) (moreSteps s') :=
  (Mirrors.separator.bind fun _ => h.step.bind fun _ => .pure _).many.bind fun _ => .pure _

/-- both texts begin with the same separator -/
protected theorem locationPath (h : Mirrors k s s') :
    Mirrors (k + 1) (locationPath s) (locationPath s') := by
  intro cs hk hcs
  have hdeep : ['/', '/'].any isMark = false := rfl
  have hslash : ['/'].any isMark = false := rfl
  unfold Grammar.locationPath
  rw [afterPrefix?_entities hdeep, afterPrefix?_entities hslash]
  have hrest {start rest : List Char} {p p' : Scan Expr} (hp : Mirrors (k + 1) p p')
      (hs : start.any isMark = false) (hstart : afterPrefix? start cs = some rest) :
      Same cs (p rest) (p' (entities rest)) := by
    obtain ⟨hplain, hsuffix⟩ := rest_of_afterPrefix? hs hcs hstart
    exact (hp rest (Nat.lt_of_le_of_lt hsuffix.length_le hk) hplain).mono hsuffix
  cases hd : afterPrefix? ['/', '/'] cs with
  | some rest => exact hrest (h.step.bind fun _ => h.moreSteps.bind fun _ => .pure _) hdeep hd
  | none =>
    cases hb : afterPrefix? ['/'] cs with
    | some rest =>
      exact hrest (h.step.optional.bind fun _ => h.moreSteps.bind fun _ => .pure _) hslash hb
    | none => exact h.step.bind (fun _ => h.moreSteps.bind fun _ => .pure _) cs hk hcs

/-! ### primary expressions -/

protected theorem reference : Mirrors k reference reference :=
  ((Mirrors.char (by decide)).seqRight .qualifiedName).map _

protected theorem call (h : Mirrors k s s') : Mirrors (k + 1) (call s) (call s') := by
  refine Mirrors.qualifiedName.bind_of_advances Advances.qualifiedName fun _ => ?_
  refine (Mirrors.char (by decide)).spaced.lookAhead.bind fun _ => ?_
  refine (Mirrors.guard _).bind fun _ => Mirrors.blanks.bind fun _ => ?_
  refine (Mirrors.char (by decide)).bind fun _ => (Mirrors.comma.sepBy h).bind fun _ => ?_
  exact (Mirrors.char (by decide)).spaced.bind fun _ => .pure _

protected theorem parenthesized (h : Mirrors k s s') :
    Mirrors (k + 1) (parenthesized s) (parenthesized s') :=
  (h.expression.optional.between (by decide) (by decide)).bind fun _ => .pure _

protected theorem primary (h : Mirrors k s s') : Mirrors (k + 1) (primary s) (primary s') :=
  Mirrors.spaced <|
  first_cons Mirrors.reference <|
  first_cons (Mirrors.numeral.map _) <|
  first_cons (Mirrors.literal.map _) <|
  first_cons h.call <|
  first_cons h.parenthesized first_nil

protected theorem filtered (h : Mirrors k s s') : Mirrors (k + 1) (filtered s) (filtered s') :=
  h.primary.bind fun _ => h.predicate.many.bind fun _ => .pure _

protected theorem path (h : Mirrors k s s') : Mirrors (k + 1) (path s) (path s') :=
  (h.filtered.orElse h.locationPath).bind fun _ => h.moreSteps.bind fun _ => .pure _

/-! ### operators -/

protected theorem union (h : Mirrors k s s') : Mirrors (k + 1) (union s) (union s') :=
  Mirrors.unionOp.chain h.path

protected theorem signed (h : Mirrors k s s') : Mirrors (k + 1) (signed s) (signed s') :=
  (Mirrors.char (by decide)).spaced.many.bind fun _ => h.union.bind fun _ => .pure _

protected theorem product (h : Mirrors k s s') : Mirrors (k + 1) (product s) (product s') :=
  Mirrors.multiplicativeOp.chain h.signed

protected theorem sum (h : Mirrors k s s') : Mirrors (k + 1) (sum s) (sum s') :=
  Mirrors.additiveOp.chain h.product

protected theorem range (h : Mirrors k s s') : Mirrors (k + 1) (range s) (range s') :=
  h.sum.bind fun _ => ((Mirrors.word rfl).spaced.seqRight h.sum).optional.bind fun _ => .pure _

protected theorem relational (h : Mirrors k s s') :
    Mirrors (k + 1) (relational s) (relational s') :=
  Mirrors.relationalOp.chain h.range

protected theorem equality (h : Mirrors k s s') : Mirrors (k + 1) (equality s) (equality s') :=
  Mirrors.equalityOp.chain h.relational

protected theorem conjunction (h : Mirrors k s s') :
    Mirrors (k + 1) (conjunction s) (conjunction s') :=
  Mirrors.andOp.chain h.equality

protected theorem disjunction (h : Mirrors k s s') :
    Mirrors (k + 1) (disjunction s) (disjunction s') :=
  Mirrors.orOp.chain h.conjunction

/-! ### conditions and quantifiers -/

protected theorem conditional (h : Mirrors k s s') :
    Mirrors (k + 1) (conditional s) (conditional s') := by
  -- behind the first word all texts are shorter
  refine (Mirrors.word rfl).spaced.bind_of_advances (Advances.word (by decide)).spaced fun _ => ?_
  refine (h.expression.between (by decide) (by decide)).of_succ.bind fun _ => ?_
  refine (Mirrors.word rfl).spaced.bind fun _ => h.bind fun _ => ?_
  exact (Mirrors.word rfl).spaced.bind fun _ => h.bind fun _ => .pure _

protected theorem clause (h : Mirrors k s s') : Mirrors (k + 1) (clause s) (clause s') := by
  refine (Mirrors.char (by decide)).spaced.bind_of_advances (Advances.char _).spaced fun _ => ?_
  refine Mirrors.qualifiedName.bind fun _ => (Mirrors.word rfl).spaced.bind fun _ => ?_
  exact h.bind fun _ => .pure _

protected theorem quantified (h : Mirrors k s s') :
    Mirrors (k + 1) (quantified s) (quantified s') := by
  refine (Mirrors.choose ?_).spaced.bind_of_advances (Advances.choose ?_).spaced fun _ => ?_
  · simp only [List.forall_mem_cons]
    exact ⟨.word rfl, .word rfl, nofun⟩
  · simp only [List.forall_mem_cons]
    exact ⟨.word (by decide), .word (by decide), nofun⟩
  · refine (Mirrors.comma.sepBy1 h.clause.of_succ).bind fun _ => ?_
    exact (Mirrors.word rfl).spaced.bind fun _ => h.bind fun _ => .pure _

protected theorem singleBody (h : Mirrors k s s') :
    Mirrors (k + 1) (singleBody s) (singleBody s') :=
  first_cons h.conditional (first_cons h.quantified (first_cons h.disjunction first_nil))

end Mirrors

/-! ## nesting -/

/-- in a text an expression is nested less deep than the text is long, and in its entities it may be
as deep as in longer texts -/
theorem mirrors_single {depth depth' : Nat} (h : depth ≤ depth') :
    Mirrors depth (single depth) (single depth') := by
  induction depth generalizing depth' with
  | zero => exact fun cs hk => absurd hk (Nat.not_lt_zero _)
  | succ depth ih =>
    obtain ⟨depth', rfl⟩ := Nat.exists_eq_succ_of_ne_zero (Nat.ne_of_gt (Nat.zero_lt_of_lt h))
    exact (ih (Nat.le_of_succ_le_succ h)).singleBody

theorem same_read? (h : Plain cs) : Same cs (read? cs) (read? (entities cs)) :=
  (mirrors_single (Nat.succ_le_succ (length_le_entities cs))).expression cs (Nat.lt_succ_self _) h

theorem all?_read?_entities (h : Plain cs) : all? read? (entities cs) = all? read? cs := by
  unfold all?
  rcases same_read? h with ⟨hread, hread'⟩ | ⟨e, rest, hread, hread', -, -⟩
  · rw [hread, hread']
  · rw [hread, hread']
    cases rest with
    | nil => rfl
    | cons c rest =>
      have hne : entities (c :: rest) ≠ [] := entities_ne_nil (List.cons_ne_nil _ _)
      obtain ⟨d, ds, heq⟩ := List.exists_cons_of_ne_nil hne
      rw [heq]

end Grammar

/-! ## whole texts -/

/-- the text with entities for its angle brackets -/
def escaped (s : String) : String := String.ofList (entities s.toList)

/-- what is refused, whatever the text is -/
def CompileError.refused? : CompileError → Option (Construct ⊕ ContextUse)
  | .parse _ => none
  | .construct _ c => some (.inl c)
  | .context _ u => some (.inr u)

theorem toOption_parse_escaped {s : String} (h : Plain s.toList) :
    (Expr.parse (escaped s)).toOption = (Expr.parse s).toOption := by
  have hs : (Expr.parse (String.ofList s.toList)).toOption = _ := toOption_parse rfl
  rw [String.ofList_toList] at hs
  rw [escaped, toOption_parse (trimChars_entities s.toList), hs]
  exact Grammar.all?_read?_entities h.trimChars

/-- what is refused depends on the expression -/
theorem refused?_check (s s' : String) (e : Expr) (binding : Binding) (dialect : Dialect) :
    (e.check s binding dialect).mapError CompileError.refused? =
      (e.check s' binding dialect).mapError CompileError.refused? := by
  unfold Expr.check
  cases binding <;> cases dialect <;> cases e.findConstruct? <;> cases e.findContextUse? <;> rfl

/-- compiling depends on what is read, errors aside that show the text -/
theorem refused?_compile {s s' : String}
    (h : (Expr.parse s).toOption = (Expr.parse s').toOption) (binding : Binding)
    (dialect : Dialect) :
    ((compile s binding dialect).map (·.expr)).mapError CompileError.refused? =
      ((compile s' binding dialect).map (·.expr)).mapError CompileError.refused? := by
  have hcompile (s : String) :
      ((compile s binding dialect).map (·.expr)).mapError CompileError.refused? =
        (Expr.parse s).toOption.elim (.error none) fun e =>
          ((e.check s binding dialect).mapError CompileError.refused?).map fun _ => e := by
    unfold compile
    cases Expr.parse s with
    | error x => rfl
    | ok e =>
      show (((e.check s binding dialect >>= fun _ => _).map _).mapError _) = Except.map _ _
      cases e.check s binding dialect <;> rfl
  rw [hcompile, hcompile, h]
  cases (Expr.parse s').toOption with
  | none => rfl
  | some e => rw [Option.elim_some, Option.elim_some, refused?_check s s']

/-- **Plain texts and their entities are compiled alike.**  If no angle bracket of a text stands in a
literal, then the text with entities for them is read as the same expression, or none of the two is;
and with any binding and dialect both are compiled to the same, or the same is refused in both. -/
theorem compile_escaped (s : String) (h : Plain s.toList) :
    (Expr.parse (escaped s)).toOption = (Expr.parse s).toOption ∧
      ∀ binding dialect,
        ((compile (escaped s) binding dialect).map (·.expr)).mapError CompileError.refused? =
          ((compile s binding dialect).map (·.expr)).mapError CompileError.refused? := by
  have hparse := toOption_parse_escaped h
  exact ⟨hparse, refused?_compile hparse⟩

/-- two comparisons, the second one behind a literal -/
theorem compile_escaped_quantity :
    Plain "@unit = 'kg' and @qty <= 10".toList ∧
      escaped "@unit = 'kg' and @qty <= 10" = "@unit = 'kg' and @qty &lt;= 10" ∧
      (Expr.parse (escaped "@unit = 'kg' and @qty <= 10")).toOption =
        (Expr.parse "@unit = 'kg' and @qty <= 10").toOption ∧
      (Expr.parse "@unit = 'kg' and @qty <= 10").toOption.isSome = true :=
  have h : Plain "@unit = 'kg' and @qty <= 10".toList := by decide
  ⟨h, by decide, (compile_escaped _ h).1, by decide +kernel⟩

end Rulebook
