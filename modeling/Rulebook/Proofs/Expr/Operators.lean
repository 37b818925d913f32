import Rulebook.Proofs.Expr.Primary

/-!
# Operators, conditions and quantifiers

Expressions whose operands stand side by side.  Operators of one level associate to the left: their
rule reads an operand and then as many links as there are.

* `Chains`             operands joined by operators of one level, in front of more of them.

`Chains.link`: **an operator and a tighter operand make a chain longer.**
-/

set_option autoImplicit false

namespace Rulebook

open Text Scan Grammar

/-! ## chains -/

/-- operands of one level, in front of more of them: these are read on from the expression -/
def Chains (single : Scan Expr) (level : Level) (text : List Char) (e : Expr) : Prop :=
  ∀ rest, level.next.Follow rest → ∃ left, Loose rest left ∧
    chain (operator level) (level.next.scan single) (text ++ rest) =
      some (e.linked (collect (link (operator level) (level.next.scan single)) left).1,
        (collect (link (operator level) (level.next.scan single)) left).2)

theorem BinaryOp.scan_level (op : BinaryOp) (single : Scan Expr) :
    op.level.scan single = chain (operator op.level) (op.level.next.scan single) := by
  rcases op with _ | _ | r | r | _ | _ | _ | _ | _ | _ <;> try cases r
  all_goals rfl

theorem BinaryOp.stops_level (op : BinaryOp) (rest : List Char) :
    op.level.Stops rest = (spaced (operator op.level) rest = none) := by
  rcases op with _ | _ | r | r | _ | _ | _ | _ | _ | _ <;> try cases r
  all_goals rfl

theorem BinaryOp.tight_symbol (op : BinaryOp) : Tight op.symbol.toList := by
  have hsymbol : op.symbol.toList ≠ [] ∧ op.symbol.toList.any isBlank = false := by
    rcases op with _ | _ | r | r | _ | _ | _ | _ | _ | _ <;> try cases r
    all_goals exact ⟨List.cons_ne_nil _ _, rfl⟩
  refine .of_forall hsymbol.1 fun c hc => ?_
  rw [Bool.eq_false_iff]
  exact List.any_eq_false.mp hsymbol.2 c hc

theorem then_operator (op : BinaryOp) (cs : List Char) :
    spaced (word "then") (' ' :: (op.symbol.toList ++ ' ' :: cs)) = none := by
  rcases op with _ | _ | r | r | _ | _ | _ | _ | _ | _ <;> try cases r
  all_goals rfl

section
variable {single : Scan Expr} {text text' : List Char} {left right : Expr}

namespace Chains

theorem of_readable {level : Level} (h : Readable single level.next text left) :
    Chains single level text left := by
  intro rest hf
  obtain ⟨rest', hl, hp⟩ := h.reads rest hf
  exact ⟨rest', hl, chain_apply hp⟩

theorem reads {op : BinaryOp} (h : Chains single op.level text left) {rest : List Char}
    (hf : op.level.Follow rest) : Reads (op.level.scan single) (text ++ rest) left rest := by
  obtain ⟨rest', hl, hp⟩ := h rest (hf.mono op.level.le_next)
  have hstop : spaced (operator op.level) rest = none := by
    rw [← op.stops_level]
    exact hf.stops _ op.level.le_refl
  refine ⟨rest', hl, ?_⟩
  rw [op.scan_level, hp, collect_of_none (link_of_none hstop hl)]
  rfl

/-- an operator and an operand behind a chain -/
theorem link {op : BinaryOp} (h : Chains single op.level text left)
    (hr : Readable single op.level.next text' right) :
    Chains single op.level (text ++ ' ' :: (op.symbol.toList ++ ' ' :: text'))
      (.binary op left right) := by
  intro rest hf
  obtain ⟨rest₁, hl₁, hchain⟩ := h _ (Level.follow_operator op (text' ++ rest))
  obtain ⟨rest₂, hl₂, hp⟩ := hr.reads rest hf
  have hlink : Grammar.link (operator op.level) (op.level.next.scan single) rest₁ =
      some ((op, right), rest₂) := by
    unfold Grammar.link
    rw [bind_apply, hl₁.spaced_eq, operator_append op (hr.tight.solid.append rest),
      Option.bind_some, bind_apply, hp]
    rfl
  have hlt : rest₂.length < rest₁.length := by
    have hsolid := op.tight_symbol.solid.append (' ' :: (text' ++ rest))
    have hlen : (op.symbol.toList ++ ' ' :: (text' ++ rest)).length ≤ rest₁.length := by
      have hle := length_skip_le rest₁
      rwa [hl₁.skip_eq, skip_space, hsolid.skip_eq] at hle
    have := hl₂.length_le
    simp only [List.length_append, List.length_cons] at hlen
    omega
  refine ⟨rest₂, hl₂, ?_⟩
  have htext : text ++ ' ' :: (op.symbol.toList ++ ' ' :: text') ++ rest =
      text ++ ' ' :: (op.symbol.toList ++ ' ' :: (text' ++ rest)) := by simp
  rw [htext, hchain, collect_of_some hlink hlt]
  rfl

end Chains

/-! ## operators -/

/-- a word with a blank behind it -/
theorem spaced_word (w : String) (hw : IsName w.toList) {cs : List Char} (hcs : Solid cs) :
    spaced (word w) (w.toList ++ ' ' :: cs) = some ((), cs) := by
  rw [spaced_apply, ((tight_of_isName hw).solid.append _).skip_eq, word_append w (ends_cons (by decide) cs),
    Option.map_some, skip_space, hcs.skip_eq]

theorem spaced_space {α : Type} (p : Scan α) (cs : List Char) :
    spaced p (' ' :: cs) = spaced p cs := rfl

namespace Readable

theorem of_binary {op : BinaryOp} (hl : Readable single op.level text left)
    (hc : Chains single op.level text left) (hr : Readable single op.level.next text' right) :
    Readable single op.level (text ++ ' ' :: (op.symbol.toList ++ ' ' :: text'))
      (.binary op left right) where
  tight := by
    have htight := hl.tight.append hr.tight (' ' :: (op.symbol.toList ++ [' ']))
    simpa using htight
  unsigned h := (hl.unsigned h).append hl.tight.ne_nil _
  quiet h := (hl.quiet h).append fun rest => by
    rw [List.cons_append, List.append_assoc, List.cons_append]
    exact then_operator op _
  reads _ hf := (hc.link hr).reads hf

/-- an expression with signs before it -/
def signedBy (signs : List Unit) (e : Expr) : Expr := signs.foldl (fun e _ => .negate e) e

theorem signedBy_negate (signs : List Unit) (e : Expr) :
    signedBy signs (.negate e) = .negate (signedBy signs e) := by
  induction signs generalizing e with
  | nil => rfl
  | cons _ signs ih => exact ih (.negate e)

theorem signed_apply (single : Scan Expr) (cs : List Char) :
    signed single cs = (Grammar.union single (collect (spaced (char '-')) cs).2).map fun x =>
      (signedBy (collect (spaced (char '-')) cs).1 x.1, x.2) := by
  unfold signed minusSigns
  rw [bind_apply, many_apply, Option.bind_some, bind_apply]
  cases Grammar.union single (collect (spaced (char '-')) cs).2 <;> rfl

/-- one sign more -/
theorem of_negate {operand : Expr} (h : Readable single .sign text operand) :
    Readable single .sign ('-' :: text) (.negate operand) where
  tight := (Tight.singleton (c := '-') (by decide)).append h.tight []
  unsigned hle := absurd hle (by decide)
  quiet _ := quiet_of_ends (solid_cons (by decide) _) (ends_cons (by decide) _)
  reads rest hf := by
    obtain ⟨left, hl, hp⟩ := h.reads rest hf
    have hsign : spaced (char '-') ('-' :: (text ++ rest)) = some ((), text ++ rest) := by
      rw [spaced_apply, skip_cons (by decide), char, if_pos (by decide), Option.map_some,
        (h.tight.solid.append rest).skip_eq]
    have hsigns := collect_of_some hsign (Nat.lt_succ_self _)
    change signed single (text ++ rest) = _ at hp
    rw [signed_apply, Option.map_eq_some_iff] at hp
    obtain ⟨⟨e, left'⟩, hunion, heq⟩ := hp
    cases heq
    refine ⟨_, hl, ?_⟩
    show signed single ('-' :: (text ++ rest)) = _
    rw [signed_apply, hsigns, hunion, Option.map_some, ← signedBy_negate]
    rfl

theorem of_range {single : Scan Expr} {text text' : List Char} {first last : Expr}
    (hfirst : Readable single .sum text first) (hlast : Readable single .sum text' last) :
    Readable single .range (text ++ ' ' :: ("to".toList ++ ' ' :: text')) (.range first last) where
  tight := by
    have htight := hfirst.tight.append hlast.tight (' ' :: ("to".toList ++ [' ']))
    simpa using htight
  unsigned hle := absurd hle (by decide)
  quiet _ := (hfirst.quiet (by decide)).append fun rest => rfl
  reads rest hf := by
    have htext : text ++ ' ' :: ("to".toList ++ ' ' :: text') ++ rest =
        text ++ ' ' :: ("to".toList ++ ' ' :: (text' ++ rest)) := by simp
    obtain ⟨left, hl, hp⟩ := hfirst.reads _ (Level.follow_to (text' ++ rest))
    obtain ⟨left', hl', hp'⟩ := hlast.reads rest (hf.mono (by decide))
    have hto : spaced (word "to") left = some ((), text' ++ rest) := by
      rw [hl.spaced_eq, spaced_space]
      exact spaced_word "to" ⟨rfl, rfl⟩ (hlast.tight.solid.append rest)
    have hsecond : (spaced (word "to") *> Grammar.sum single) left = some (last, left') := by
      rw [seqRight_apply, hto]
      exact hp'
    refine ⟨left', hl', ?_⟩
    rw [htext]
    show Grammar.range single _ = _
    unfold Grammar.range
    rw [bind_apply]
    show (Level.sum.scan single _).bind _ = _
    rw [hp, Option.bind_some, bind_apply, optional?_of_some _ _ hsecond]
    rfl

end Readable

end

/-! ## sequences, conditions and quantifiers -/

section
variable {spelling : Spelling} {depth : Nat}

theorem Grammar.singleBody_of_conditional {single : Scan Expr} {cs rest : List Char} {e : Expr}
    (h : Reads (conditional single) cs e rest) : Reads (singleBody single) cs e rest := by
  obtain ⟨left, hl, hp⟩ := h
  refine ⟨left, hl, ?_⟩
  simp [singleBody, hp]

theorem Grammar.singleBody_of_quantified {single : Scan Expr} {cs rest : List Char} {e : Expr}
    (hnone : conditional single cs = none) (h : Reads (quantified single) cs e rest) :
    Reads (singleBody single) cs e rest := by
  obtain ⟨left, hl, hp⟩ := h
  refine ⟨left, hl, ?_⟩
  simp [singleBody, hnone, hp]

theorem solid_clause (c : Clause) : Solid (c.text spelling) := by
  obtain ⟨name, domain⟩ := c
  exact solid_cons (c := '$') (by decide) _

theorem reads_clause {c : Clause} (hname : IsQualifiedName c.name)
    (hdomain : Readable (Grammar.single depth) .single (c.domain.textAt spelling .single) c.domain)
    {rest : List Char} (hf : Level.single.Follow rest) :
    Reads (clause (Grammar.single (depth + 1))) (c.text spelling ++ rest) c rest := by
  obtain ⟨name, domain⟩ := c
  have htext : Clause.text spelling ⟨name, domain⟩ ++ rest = '$' :: (name.toList ++ ' ' ::
      ("in".toList ++ ' ' :: (domain.textAt spelling .single ++ rest))) := by
    simp [Clause.text, Expr.textAt]
  have hdollar : spaced (char '$') ('$' :: (name.toList ++ ' ' ::
      ("in".toList ++ ' ' :: (domain.textAt spelling .single ++ rest)))) =
      some ((), name.toList ++ ' ' ::
        ("in".toList ++ ' ' :: (domain.textAt spelling .single ++ rest))) := by
    rw [spaced_apply, skip_cons (by decide), char, if_pos (by decide), Option.map_some,
      ((tight_of_isQualifiedName hname).solid.append _).skip_eq]
  obtain ⟨left, hl, hp⟩ := hdomain.reads rest hf
  change Grammar.single (depth + 1) _ = _ at hp
  have hin := spaced_word "in" ⟨rfl, rfl⟩
    (hdomain.tight.solid.append rest)
  refine ⟨left, hl, ?_⟩
  rw [htext]
  unfold clause
  rw [bind_apply, hdollar, Option.bind_some, bind_apply,
    qualifiedName_append hname (ends_cons (by decide) _) (ends_cons (by decide) _),
    Option.bind_some, bind_apply, spaced_space, hin, Option.bind_some, bind_apply, hp]
  rfl

namespace Readable

theorem of_sequence {es : List Expr} (hne : es ≠ []) (hlen : es.length ≠ 1)
    (h : ∀ e ∈ es, Readable (Grammar.single depth) .single (e.textAt spelling .single) e) :
    Readable (Grammar.single depth) .sequence (joined [',', ' '] (Expr.itemTexts spelling es))
      (.sequence es) := by
  rw [Expr.itemTexts_eq]
  refine ⟨?_, fun hle => absurd hle (by decide), fun hle => absurd hle (by decide),
    fun rest hf => ?_⟩
  · obtain ⟨e, es, rfl⟩ := List.exists_cons_of_ne_nil hne
    refine (h e List.mem_cons_self).tight.append_flatMap fun t ht => ?_
    obtain ⟨x, hx, rfl⟩ := List.mem_map.mp ht
    have hcomma : Tight [','] := .singleton (by decide)
    exact hcomma.append (h x (List.mem_cons_of_mem _ hx)).tight [' ']
  · have hread := reads_expression_items hne h (hf.mono (by decide)) (hf.stops .sequence (by decide))
    have hitems : Expr.ofItems es = .sequence es := by
      rcases es with _ | ⟨e, _ | ⟨e', es⟩⟩
      · rfl
      · exact absurd rfl hlen
      · rfl
    rwa [hitems] at hread

theorem of_conditional {test yes no : Expr}
    (htest : Readable (Grammar.single depth) .sequence (test.textAt spelling .sequence) test)
    (hyes : Readable (Grammar.single depth) .single (yes.textAt spelling .single) yes)
    (hno : Readable (Grammar.single depth) .single (no.textAt spelling .single) no) :
    Readable (Grammar.single (depth + 1)) .whole (Expr.text spelling (.conditional test yes no))
      (.conditional test yes no) := by
  refine ⟨?_, fun hle => absurd hle (by decide), fun hle => absurd hle (by decide),
    fun rest hf => ?_⟩
  · have hif : IsName "if".toList := ⟨rfl, rfl⟩
    have htight := (tight_of_isName hif).append hno.tight (' ' :: '(' ::
      (test.textAt spelling .sequence ++ ')' :: ' ' :: ("then".toList ++ ' ' ::
        (yes.textAt spelling .single ++ ' ' :: ("else".toList ++ [' '])))))
    simpa [Expr.text, Expr.textAt] using htight
  · have htext : Expr.text spelling (.conditional test yes no) ++ rest =
        "if".toList ++ ' ' :: '(' :: (test.textAt spelling .sequence ++ ')' :: ' ' ::
          ("then".toList ++ ' ' :: (yes.textAt spelling .single ++ ' ' ::
            ("else".toList ++ ' ' :: (no.textAt spelling .single ++ rest))))) := by
      simp [Expr.text, Expr.textAt]
    refine reads_expression (singleBody_of_conditional ?_) (hf.stops .sequence (by decide))
    obtain ⟨left, hl, hp⟩ := hyes.reads _
      (Level.follow_else (' ' :: (no.textAt spelling .single ++ rest)))
    obtain ⟨left', hl', hp'⟩ := hno.reads rest (hf.mono (by decide))
    change Grammar.single (depth + 1) _ = _ at hp hp'
    have hinner := htest.reads _ ((Level.follow_parenthesis (' ' ::
      ("then".toList ++ ' ' :: (yes.textAt spelling .single ++ ' ' ::
        ("else".toList ++ ' ' :: (no.textAt spelling .single ++ rest)))))).mono (by decide))
    refine ⟨left', hl', ?_⟩
    rw [htext]
    unfold conditional
    rw [bind_apply, spaced_word "if" ⟨rfl, rfl⟩ (solid_cons (c := '(') (by decide) _), Option.bind_some, bind_apply]
    have hbetween := between_eq (l := '(') (by decide) (by decide)
      (htest.tight.solid.append _) hinner
    change between '(' ')' (expression (Grammar.single (depth + 1))) _ = _ at hbetween
    rw [hbetween, Option.bind_some, bind_apply, (Loose.skip _).spaced_eq, spaced_space,
      spaced_word "then" ⟨rfl, rfl⟩ (hyes.tight.solid.append _), Option.bind_some, bind_apply, hp,
      Option.bind_some, bind_apply, hl.spaced_eq, spaced_space,
      spaced_word "else" ⟨rfl, rfl⟩ (hno.tight.solid.append rest), Option.bind_some, bind_apply, hp']
    rfl

theorem spaced_quantifier (q : Quantifier) {cs : List Char} (h : Solid cs) :
    spaced (choose [(word "some", .some), (word "every", .every)]) (q.keyword.toList ++ ' ' :: cs) =
      some (q, cs) := by
  have hread : ∀ cs, spaced (choose [(word "some", .some), (word "every", .every)])
      (q.keyword.toList ++ ' ' :: cs) = some (q, skip cs) := by
    intro cs
    cases q <;> rfl
  rw [hread, h.skip_eq]

theorem of_quantified {q : Quantifier} {cs : List Clause} {satisfies : Expr} (hne : cs ≠ [])
    (hnames : ∀ c ∈ cs, IsQualifiedName c.name)
    (hdomains : ∀ c ∈ cs,
      Readable (Grammar.single depth) .single (c.domain.textAt spelling .single) c.domain)
    (hsatisfies : Readable (Grammar.single depth) .single (satisfies.textAt spelling .single)
      satisfies) :
    Readable (Grammar.single (depth + 1)) .whole
      (Expr.text spelling (.quantified q cs satisfies)) (.quantified q cs satisfies) := by
  refine ⟨?_, fun hle => absurd hle (by decide), fun hle => absurd hle (by decide),
    fun rest hf => ?_⟩
  · have hq : IsName q.keyword.toList := by cases q <;> exact ⟨rfl, rfl⟩
    have htight := (tight_of_isName hq).append hsatisfies.tight (' ' ::
      (joined [',', ' '] (Expr.clauseTexts spelling cs) ++ ' ' :: ("satisfies".toList ++ [' '])))
    simpa [Expr.text, Expr.textAt] using htight
  · have htext : Expr.text spelling (.quantified q cs satisfies) ++ rest =
        q.keyword.toList ++ ' ' :: (joined [',', ' '] (cs.map (Clause.text spelling)) ++ ' ' ::
          ("satisfies".toList ++ ' ' :: (satisfies.textAt spelling .single ++ rest))) := by
      simp [Expr.text, Expr.textAt, Expr.clauseTexts_eq]
    have hnone : conditional (Grammar.single (depth + 1))
        (Expr.text spelling (.quantified q cs satisfies) ++ rest) = none := by
      rw [htext]
      cases q <;> rfl
    refine reads_expression (singleBody_of_quantified hnone ?_) (hf.stops .sequence (by decide))
    obtain ⟨left', hl', hp'⟩ := hsatisfies.reads rest (hf.mono (by decide))
    change Grammar.single (depth + 1) _ = _ at hp'
    obtain ⟨left, hl, hp⟩ := sepBy1_joined (t := Clause.text spelling) (f := id) hne
      (fun c _ => solid_clause c)
      (fun c hc rest hf => reads_clause (hnames c hc) (hdomains c hc) hf) Level.follow_comma
      (Level.follow_satisfies (' ' :: (satisfies.textAt spelling .single ++ rest))) rfl
    have hsolid : Solid (joined [',', ' '] (cs.map (Clause.text spelling)) ++ ' ' ::
        ("satisfies".toList ++ ' ' :: (satisfies.textAt spelling .single ++ rest))) := by
      obtain ⟨c, cs, rfl⟩ := List.exists_cons_of_ne_nil hne
      exact ((solid_clause c).append _).append _
    refine ⟨left', hl', ?_⟩
    rw [htext]
    unfold quantified
    rw [bind_apply, spaced_quantifier q hsolid, Option.bind_some, bind_apply, hp, Option.bind_some,
      bind_apply, hl.spaced_eq, spaced_space, spaced_word "satisfies" ⟨rfl, rfl⟩ (hsatisfies.tight.solid.append rest),
      Option.bind_some, bind_apply, hp', List.map_id]
    rfl

end Readable

end

end Rulebook
