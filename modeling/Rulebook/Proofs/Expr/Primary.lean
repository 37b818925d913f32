import Rulebook.Proofs.Expr.Levels

/-!
# Primary expressions

Literals, numbers, references, calls and what stands in parentheses: each text is read by the rule
for primary expressions.

* `Expr.ofItems`       the expression that is read from several with commas;
* `quiet_of_ends`, `quiet_of_colon`, `Readable.quiet_call`  texts that do not begin like a condition
                       or a quantifier;
* `Readable.parenthesized`, `Readable.of_call`  **what is readable inside is readable in parentheses
                       and as an argument, one level deeper.**
-/

set_option autoImplicit false

namespace Rulebook

open Text Scan Grammar

/-! ## texts that are no conditions -/

section
variable {single : Scan Expr} {text : List Char}

theorem Grammar.Ends.append {p : Char → Bool} {cs : List Char} (h : Ends p cs) (hne : cs ≠ [])
    (more : List Char) : Ends p (cs ++ more) := by
  obtain ⟨c, ds, rfl⟩ := List.exists_cons_of_ne_nil hne
  exact ends_cons (h c rfl) _

theorem Grammar.Ends.ne {p : Char → Bool} {cs : List Char} (h : Ends p cs) {d : Char}
    (hd : p d = true) : Ends (· == d) cs := by
  intro c hc
  rw [beq_eq_false_iff_ne]
  rintro rfl
  rw [h c hc] at hd
  cases hd

theorem word_of_ends {w : String} {d : Char} {ds cs : List Char} (hw : w.toList = d :: ds)
    (h : Ends (· == d) cs) : word w cs = none := by
  unfold word
  rw [bind_apply, text_apply, hw, afterPrefix?_of_ends h]
  rfl

theorem conditional_of_name {cs rest : List Char} (hcs : IsName cs) (hr : Ends isNameChar rest)
    (hopen : spaced (char '(') rest = none) : conditional single (cs ++ rest) = none := by
  have hsolid := (tight_of_isName hcs).solid.append rest
  unfold conditional
  rw [bind_apply, spaced_apply, hsolid.skip_eq]
  cases hw : word "if" (cs ++ rest) with
  | none => rfl
  | some x =>
    obtain ⟨-, hleft⟩ := eq_of_word (by rfl) (isNameChar_of_isName hcs) hr hw
    simp [between, (Loose.skip rest).spaced_eq, hopen, hleft]

theorem quantified_of_name {cs rest : List Char} (hcs : IsName cs) (hr : Ends isNameChar rest)
    (hdollar : spaced (char '$') rest = none) : quantified single (cs ++ rest) = none := by
  have hsolid := (tight_of_isName hcs).solid.append rest
  unfold quantified
  rw [bind_apply, spaced_apply, hsolid.skip_eq]
  cases hk : choose _ (cs ++ rest) with
  | none => rfl
  | some x =>
    obtain ⟨q, left⟩ := x
    obtain ⟨p, hmem, hword⟩ := exists_of_choose hk
    have hleft : left = rest := by
      simp only [List.mem_cons, Prod.mk.injEq, List.not_mem_nil, or_false] at hmem
      rcases hmem with ⟨rfl, -⟩ | ⟨rfl, -⟩ <;>
        exact (eq_of_word (by rfl) (isNameChar_of_isName hcs) hr hword).2
    simp [sepBy1, clause, (Loose.skip rest).spaced_eq, hdollar, hleft]

/-- what does not begin with a name -/
theorem quiet_of_ends (hs : Solid text) (h : Ends isNameStart text) : Quiet single text := by
  intro rest _
  have hskip := (hs.append rest).skip_eq
  have hne : text ≠ [] := by rintro rfl; exact hs
  have hword : ∀ {w : String} {d : Char} {ds : List Char}, w.toList = d :: ds →
      isNameStart d = true → word w (text ++ rest) = none :=
    fun hw hd => word_of_ends hw ((h.ne hd).append hne rest)
  have hif := hword (w := "if") rfl (by decide)
  have hsome := hword (w := "some") rfl (by decide)
  have hevery := hword (w := "every") rfl (by decide)
  constructor
  · unfold conditional
    rw [bind_apply, spaced_apply, hskip, hif]
    rfl
  · unfold quantified
    rw [bind_apply, spaced_apply, hskip]
    simp [hsome, hevery]

/-- a name with a colon behind it -/
theorem quiet_of_colon {cs : List Char} (hcs : IsName cs) (more : List Char) :
    Quiet single (cs ++ ':' :: more) := by
  intro rest _
  rw [List.append_assoc, List.cons_append]
  have hr : ∀ ds, Ends isNameChar (':' :: ds) := ends_cons (by decide)
  exact ⟨conditional_of_name hcs (hr _) rfl, quantified_of_name hcs (hr _) rfl⟩

theorem Quiet.append (h : Quiet single text) {more : List Char}
    (hmore : ∀ rest, spaced (word "then") (more ++ rest) = none) : Quiet single (text ++ more) := by
  intro rest _
  rw [List.append_assoc]
  exact h _ (hmore rest)

end

/-! ## parentheses -/

section
variable {depth : Nat} {text : List Char} {e : Expr}

theorem primary_apply (single : Scan Expr) {cs : List Char} (h : Solid cs) :
    Grammar.primary single cs =
      ((reference cs).or ((Expr.number <$> numeral) cs |>.or ((Expr.literal <$> literal) cs |>.or
        ((call single cs).or (parenthesized single cs))))).map fun x => (x.1, skip x.2) := by
  unfold Grammar.primary
  rw [spaced_apply, h.skip_eq]
  simp

theorem call_of_ends (single : Scan Expr) {cs : List Char} (h : Ends isNameStart cs) :
    call single cs = none := by
  have hname : qualifiedName cs = none := by
    unfold qualifiedName
    rw [bind_apply, name_of_ends h]
    rfl
  unfold call
  rw [bind_apply, hname]
  rfl

theorem primary_of_parenthesis (single : Scan Expr) (cs : List Char) :
    Grammar.primary single ('(' :: cs) =
      (parenthesized single ('(' :: cs)).map fun x => (x.1, skip x.2) := by
  rw [primary_apply single (solid_cons (by decide) cs), reference_of_ends (ends_cons (by decide) cs),
    map_apply, numeral_of_ends (ends_cons (by decide) cs), map_apply,
    literal_of_ends (ends_cons (by decide) cs), call_of_ends single (ends_cons (by decide) cs)]
  rfl

/-- only calls begin with a name -/
theorem primary_of_name (single : Scan Expr) {cs : List Char} (hs : Solid cs)
    (hends : ∀ p : Char → Bool, (∀ c, isNameStart c = true → p c = false) → Ends p cs) :
    Grammar.primary single cs = (call single cs).map fun x => (x.1, skip x.2) := by
  have hnumeral : ∀ c, isNameStart c = true → isNumeralChar c = false := by
    intro c hc
    rw [Bool.eq_false_iff]
    intro hn
    rw [(isNumeralChar_disjoint hn).2] at hc
    cases hc
  have hquote : ∀ c, isNameStart c = true → (c == '\'' || c == '"') = false := fun c hc =>
    Bool.or_eq_false_iff.mpr
      ⟨beq_of_isNameStart (by decide) c hc, beq_of_isNameStart (by decide) c hc⟩
  have hparenthesized : parenthesized single cs = none := by
    unfold parenthesized between
    rw [bind_apply, bind_apply, spaced_apply, hs.skip_eq,
      char_of_ends (hends _ (beq_of_isNameStart (by decide)))]
    rfl
  rw [primary_apply single hs, map_apply, map_apply,
    reference_of_ends (hends _ (beq_of_isNameStart (by decide))),
    numeral_of_ends (hends _ hnumeral), literal_of_ends (hends _ hquote), hparenthesized,
    Option.or_none]
  rfl

/-- an expression in parentheses, one deeper -/
theorem Readable.parenthesized (h : Readable (single depth) .whole text e) :
    Readable (single (depth + 1)) .primary ('(' :: (text ++ [')'])) e where
  tight := (Tight.singleton (c := '(') (by decide)).append (.singleton (c := ')') (by decide)) text
  unsigned _ := ends_cons (by decide) _
  quiet _ := quiet_of_ends (solid_cons (by decide) _) (ends_cons (by decide) _)
  reads rest _ := by
    have hread : Reads (optional? (expression (Grammar.single (depth + 1)))) (text ++ ')' :: rest)
        (some e) (')' :: rest) :=
      (h.reads (')' :: rest) (Level.follow_parenthesis rest)).optional
    have hbetween := between_eq (l := '(') (by decide) (by decide) (h.tight.solid.append _) hread
    refine .of_skip ?_
    show Grammar.primary _ _ = _
    rw [List.cons_append, List.append_assoc, List.singleton_append, primary_of_parenthesis,
      Grammar.parenthesized, bind_apply, hbetween]
    simp

end

/-! ## where no expression begins -/

section
variable {single : Scan Expr} {cs : List Char}

theorem chain_of_none {op : Scan BinaryOp} {operand : Scan Expr} (h : operand cs = none) :
    chain op operand cs = none := by
  unfold chain
  rw [bind_apply, h]
  rfl

/-- where no path begins no operand does -/
theorem singleBody_of_none (hs : Solid cs) (hm : Ends (· == '-') cs) (hq : Quiet single cs)
    (hpath : Grammar.path single cs = none) : singleBody single cs = none := by
  have hquiet := hq [] rfl
  rw [List.append_nil] at hquiet
  have hunion : Grammar.union single cs = none := chain_of_none hpath
  have hsigned : signed single cs = none := by
    unfold signed
    rw [bind_apply, Readable.minusSigns_of_ends hs hm, Option.bind_some, bind_apply, hunion]
    rfl
  have hsum : Grammar.sum single cs = none := chain_of_none (chain_of_none hsigned)
  have hrange : Grammar.range single cs = none := by
    unfold Grammar.range
    rw [bind_apply, hsum]
    rfl
  have hdisjunction : Grammar.disjunction single cs = none :=
    chain_of_none (chain_of_none (chain_of_none (chain_of_none hrange)))
  simp [singleBody, hquiet.1, hquiet.2, hdisjunction]

theorem single_close (depth : Nat) (cs : List Char) : Grammar.single depth (')' :: cs) = none := by
  cases depth with
  | zero => rfl
  | succ depth =>
    have hsolid : Solid (')' :: cs) := solid_cons (by decide) cs
    exact singleBody_of_none hsolid (ends_cons (by decide) cs)
      (quiet_of_ends hsolid (ends_cons (by decide) cs)) rfl

end

theorem expression_close (depth : Nat) (cs : List Char) :
    expression (Grammar.single depth) (')' :: cs) = none := by
  unfold expression sepBy1
  rw [bind_apply, bind_apply, single_close]
  rfl

theorem Readable.of_nil (depth : Nat) :
    Readable (Grammar.single depth) .primary ['(', ')'] (.sequence []) where
  tight := (Tight.singleton (c := '(') (by decide)).append (.singleton (c := ')') (by decide)) []
  unsigned _ := ends_cons (by decide) _
  quiet _ := quiet_of_ends (solid_cons (by decide) _) (ends_cons (by decide) _)
  reads rest _ := by
    have hread : Reads (optional? (expression (Grammar.single depth))) ([] ++ ')' :: rest) none
        (')' :: rest) := .of_eq (optional?_of_none _ _ (expression_close depth rest))
    have hbetween := between_eq (l := '(') (by decide) (by decide) (solid_cons (by decide) _) hread
    have hparenthesized : Grammar.parenthesized (Grammar.single depth) ('(' :: ')' :: rest) =
        some (.sequence [], skip rest) := by
      unfold Grammar.parenthesized
      rw [bind_apply]
      rw [List.nil_append] at hbetween
      rw [hbetween]
      rfl
    have hprimary := primary_of_parenthesis (Grammar.single depth) (')' :: rest)
    rw [hparenthesized, Option.map_some, skip_skip] at hprimary
    exact .of_skip hprimary

/-! ## texts with commas -/

theorem Grammar.sepBy1_joined {α ι : Type} {p : Scan α} {xs : List ι} (hne : xs ≠ [])
    {t : ι → List Char} {f : ι → α} {Ok : List Char → Prop} {rest : List Char}
    (hsolid : ∀ x ∈ xs, Solid (t x))
    (hread : ∀ x ∈ xs, ∀ rest, Ok rest → Reads p (t x ++ rest) (f x) rest)
    (hcomma : ∀ cs, Ok (',' :: cs)) (hrest : Ok rest) (hstop : comma rest = none) :
    Reads (sepBy1 comma p) (joined [',', ' '] (xs.map t) ++ rest) (xs.map f) rest := by
  obtain ⟨x, ys, rfl⟩ := List.exists_cons_of_ne_nil hne
  have htext : joined [',', ' '] ((x :: ys).map t) ++ rest =
      t x ++ (ys.flatMap (fun y => ',' :: ' ' :: t y) ++ rest) := by
    simp [joined, List.flatMap_map]
  have hfirst : Ok (ys.flatMap (fun y => ',' :: ' ' :: t y) ++ rest) := by
    cases ys with
    | nil => exact hrest
    | cons y ys => exact hcomma _
  obtain ⟨left, hl, hp⟩ := hread x List.mem_cons_self _ hfirst
  have hmore : ∀ y ∈ ys, ∀ rest, Ok rest →
      Reads (comma *> p) (',' :: ' ' :: t y ++ rest) (f y) rest := by
    intro y hy rest hok
    obtain ⟨left, hl, hp⟩ := hread y (List.mem_cons_of_mem _ hy) rest hok
    refine ⟨left, hl, ?_⟩
    rw [seqRight_apply, comma, spaced_apply, List.cons_append, List.cons_append,
      skip_cons (by decide), char, if_pos (by decide), Option.map_some, Option.bind_some, skip_space,
      ((hsolid y (List.mem_cons_of_mem _ hy)).append rest).skip_eq, hp]
  have hstop' : (comma *> p) rest = none := by
    rw [seqRight_apply, hstop]
    rfl
  have hskip : ∀ cs, (comma *> p) (skip cs) = (comma *> p) cs := by
    intro cs
    rw [seqRight_apply, comma, (Loose.skip cs).spaced_eq]
    rfl
  obtain ⟨left', hl', hcollect⟩ := collect_flatMap hskip hmore (fun _ _ => solid_cons (by decide) _)
    (fun _ _ cs => hcomma _) hrest hstop' left hl
  refine ⟨left', hl', ?_⟩
  rw [htext]
  simp [sepBy1, hp, hcollect]

/-- several items are a sequence, one is itself -/
def Expr.ofItems : List Expr → Expr
  | [e] => e
  | es => .sequence es

section
variable {depth : Nat} {es : List Expr} {text : Expr → List Char}

theorem reads_items (hne : es ≠ []) (h : ∀ e ∈ es, Readable (Grammar.single depth) .single (text e) e)
    {rest : List Char} (hrest : Level.single.Follow rest) (hstop : comma rest = none) :
    Reads (sepBy1 comma (Grammar.single (depth + 1))) (joined [',', ' '] (es.map text) ++ rest)
      es rest := by
  have hread := sepBy1_joined (p := Grammar.single (depth + 1)) (f := id) hne
    (fun e he => (h e he).tight.solid)
    (fun e he => (h e he).reads) Level.follow_comma hrest hstop
  rwa [List.map_id] at hread

theorem reads_expression_items (hne : es ≠ [])
    (h : ∀ e ∈ es, Readable (Grammar.single depth) .single (text e) e)
    {rest : List Char} (hrest : Level.single.Follow rest) (hstop : comma rest = none) :
    Reads (expression (Grammar.single (depth + 1))) (joined [',', ' '] (es.map text) ++ rest)
      (.ofItems es) rest := by
  obtain ⟨left, hl, hp⟩ := reads_items hne h hrest hstop
  refine ⟨left, hl, ?_⟩
  unfold expression
  rw [bind_apply, hp]
  rcases es with _ | ⟨e, _ | ⟨e', es⟩⟩ <;> rfl

theorem solid_joined (hne : es ≠ []) (h : ∀ e ∈ es, Readable (Grammar.single depth) .single (text e) e) :
    Solid (joined [',', ' '] (es.map text)) := by
  obtain ⟨e, es, rfl⟩ := List.exists_cons_of_ne_nil hne
  exact (h e List.mem_cons_self).tight.solid.append _

end

/-! ## primary expressions -/

namespace Readable

section
variable {single : Scan Expr} {text : List Char} {e : Expr}

theorem of_lexeme (ht : Tight text) (hn : Ends isNameStart text) (hm : Ends (· == '-') text)
    (h : ∀ rest, Clear rest → Grammar.primary single (text ++ rest) = some (e, skip rest)) :
    Readable single .primary text e where
  tight := ht
  unsigned _ := hm
  quiet _ := quiet_of_ends ht.solid hn
  reads rest hf := .of_skip (h rest hf.clear)

theorem of_literal {s : String} (h : ¬ ('\'' ∈ s.toList ∧ '"' ∈ s.toList)) :
    Readable single .primary (quotedText s) (.literal s) := by
  obtain ⟨quote, hquote, htext⟩ : ∃ quote, (quote = '"' ∨ quote = '\'') ∧
      quotedText s = quote :: (s.toList ++ [quote]) := by
    unfold quotedText
    split
    · exact ⟨_, .inl rfl, rfl⟩
    · exact ⟨_, .inr rfl, rfl⟩
  have hhead : ∀ {p : Char → Bool}, p '"' = false → p '\'' = false → Ends p (quotedText s) := by
    intro p h₁ h₂
    rw [htext]
    refine ends_cons ?_ _
    rcases hquote with rfl | rfl <;> assumption
  have htight : Tight (quotedText s) := by
    rw [htext]
    have hb : isBlank quote = false := by rcases hquote with rfl | rfl <;> decide
    exact (Tight.singleton hb).append (.singleton hb) s.toList
  refine of_lexeme htight (hhead (by decide) (by decide)) (hhead (by decide) (by decide)) ?_
  intro rest _
  rw [primary_apply single (htight.solid.append rest),
    reference_of_ends ((hhead (by decide) (by decide)).append htight.ne_nil rest), map_apply,
    numeral_of_ends ((hhead (by decide) (by decide)).append htight.ne_nil rest), map_apply,
    literal_append h]
  rfl

theorem of_number {cs : List Char} {value : Float} (h : numeral cs = some (value, [])) :
    Readable single .primary cs (.number value) := by
  have htight := tight_of_numeral h
  have hhead : ∀ {p : Char → Bool}, (∀ c, isNumeralChar c = true → p c = false) → Ends p cs := by
    intro p hp
    obtain ⟨c, ds, rfl, hc⟩ := exists_cons_of_numeral h
    exact ends_cons (hp c hc) ds
  have hne : ∀ {d : Char}, isNumeralChar d = false → Ends (· == d) cs := by
    intro d hd
    refine hhead fun c hc => ?_
    rw [beq_eq_false_iff_ne]
    rintro rfl
    rw [hc] at hd
    cases hd
  refine of_lexeme htight (hhead fun c hc => (isNumeralChar_disjoint hc).2) (hne (by decide)) ?_
  intro rest hr
  rw [primary_apply single (htight.solid.append rest),
    reference_of_ends ((hne (by decide)).append htight.ne_nil rest), map_apply,
    numeral_append h (hr.ends (by decide))]
  rfl

theorem of_reference {name : String} (h : IsQualifiedName name) :
    Readable single .primary ('$' :: name.toList) (.var name) := by
  have htight : Tight ('$' :: name.toList) :=
    (Tight.singleton (by decide)).append (tight_of_isQualifiedName h) []
  refine of_lexeme htight (ends_cons (by decide) _) (ends_cons (by decide) _) ?_
  intro rest hr
  have hread : reference ('$' :: (name.toList ++ rest)) = some (.var name, rest) := by
    simp [reference, char, qualifiedName_append h hr.ends_name hr.ends_colon]
  rw [primary_apply single (htight.solid.append rest), List.cons_append, hread]
  rfl

end

section
variable {depth : Nat} {args : List Expr} {text : Expr → List Char}

theorem sepBy_items (h : ∀ e ∈ args, Readable (Grammar.single depth) .single (text e) e)
    (rest : List Char) :
    sepBy comma (Grammar.single (depth + 1)) (joined [',', ' '] (args.map text) ++ ')' :: rest) =
      some (args, ')' :: rest) := by
  unfold sepBy
  rw [orElse_apply]
  by_cases hne : args = []
  · subst hne
    have hnone : sepBy1 comma (Grammar.single (depth + 1)) (')' :: rest) = none := by
      unfold sepBy1
      rw [bind_apply, single_close]
      rfl
    simp [joined, hnone]
  · obtain ⟨left, hl, hp⟩ := reads_items hne h
      ((Level.follow_parenthesis rest).mono (by decide)) rfl
    obtain rfl := (solid_cons (by decide) rest : Solid (')' :: rest)).loose_eq hl
    rw [hp]
    rfl

theorem quiet_call {name : String} (hname : IsQualifiedName name)
    (h : ∀ e ∈ args, Readable (Grammar.single depth) .single (text e) e) :
    Quiet (Grammar.single (depth + 1))
      (name.toList ++ '(' :: (joined [',', ' '] (args.map text) ++ [')'])) := by
  rcases hname with hname | ⟨first, second, hfirst, -, heq⟩
  · intro rest hthen
    have hr : ∀ ds, Ends isNameChar ('(' :: ds) := ends_cons (by decide)
    rw [List.append_assoc, List.cons_append]
    refine ⟨?_, quantified_of_name hname (hr _) rfl⟩
    -- a function may be called `if`; its arguments are read as a condition then
    have hsolid := (tight_of_isName hname).solid.append
      ('(' :: (joined [',', ' '] (args.map text) ++ [')'] ++ rest))
    unfold conditional
    rw [bind_apply, spaced_apply, hsolid.skip_eq]
    cases hw : word "if" (name.toList ++ '(' :: (joined [',', ' '] (args.map text) ++ [')'] ++ rest)) with
    | none => rfl
    | some x =>
      obtain ⟨-, hleft⟩ := eq_of_word (by rfl) (isNameChar_of_isName hname) (hr _) hw
      rw [Option.map_some, Option.bind_some, hleft, skip_cons (by decide), List.append_assoc,
        List.singleton_append, bind_apply]
      by_cases hne : args = []
      · subst hne
        simp [between, spaced_apply, skip_cons, char, joined, expression_close, isSpace]
      · have hread := reads_expression_items hne h ((Level.follow_parenthesis rest).mono (by decide)) rfl
        rw [between_eq (by decide) (by decide) ((solid_joined hne h).append _) hread,
          Option.bind_some, bind_apply, (Loose.skip rest).spaced_eq, hthen]
        rfl
  · rw [heq, List.append_assoc, List.cons_append]
    exact quiet_of_colon hfirst _

theorem call_append {name : String} (hname : IsQualifiedName name)
    (hkind : isKindName name = false)
    (h : ∀ e ∈ args, Readable (Grammar.single depth) .single (text e) e) (rest : List Char) :
    call (Grammar.single (depth + 1))
      (name.toList ++ '(' :: (joined [',', ' '] (args.map text) ++ ')' :: rest)) =
        some (.call name args, skip rest) := by
  have hfunction := qualifiedName_append hname
    (ends_cons (by decide) (joined [',', ' '] (args.map text) ++ ')' :: rest))
    (ends_cons (c := '(') (by decide) (joined [',', ' '] (args.map text) ++ ')' :: rest))
  have hopen : ∀ cs, spaced (char '(') ('(' :: cs) = some ((), skip cs) := fun _ => rfl
  have hclose : spaced (char ')') (')' :: rest) = some ((), skip rest) := rfl
  have hguard : ∀ cs, (guard (!isKindName name) : Scan Unit) cs = some ((), cs) := by
    intro cs
    rw [guard_apply, hkind]
    rfl
  unfold call
  rw [bind_apply, hfunction, Option.bind_some, bind_apply, lookAhead, hopen, Option.map_some,
    Option.bind_some, bind_apply, hguard, Option.bind_some, bind_apply, blanks_apply,
    Option.bind_some, skip_cons (by decide), bind_apply, char, if_pos (by decide), Option.bind_some,
    bind_apply, sepBy_items h, Option.bind_some, bind_apply, hclose]
  rfl

theorem of_call {name : String} (hname : IsQualifiedName name) (hkind : isKindName name = false)
    (h : ∀ e ∈ args, Readable (Grammar.single depth) .single (text e) e) :
    Readable (Grammar.single (depth + 1)) .primary
      (name.toList ++ '(' :: (joined [',', ' '] (args.map text) ++ [')'])) (.call name args) where
  tight := by
    have htight := (tight_of_isQualifiedName hname).append (.singleton (c := ')') (by decide))
      ('(' :: joined [',', ' '] (args.map text))
    simpa using htight
  unsigned _ := ends_of_isQualifiedName hname (beq_of_isNameStart (by decide)) _
  quiet _ := quiet_call hname h
  reads rest _ := by
    have hsolid := (tight_of_isQualifiedName hname).solid.append
      ('(' :: (joined [',', ' '] (args.map text) ++ ')' :: rest))
    refine .of_skip ?_
    show Grammar.primary _ _ = _
    rw [List.append_assoc, List.cons_append, List.append_assoc, List.singleton_append,
      primary_of_name _ hsolid fun _ hp => ends_of_isQualifiedName hname hp _,
      call_append hname hkind h, Option.map_some, skip_skip]

end

end Readable

end Rulebook
