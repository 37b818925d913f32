import Rulebook.Proofs.Expr.PathTokens

/-!
# Blanks in paths

Texts of paths of plain names, with any blanks around their separators.

* `Close`       no blank and no other separator comes behind a leading separator;
* `readPath?`   what tokens are read as.

`parse_pathText`: **close tokens are read as the path that they stand for, or not at all; where a
path has a blank behind its leading separator it is never read as what it stands for.**
-/

set_option autoImplicit false

namespace Rulebook

open Text Scan Grammar

/-! ## whole texts -/

/-- a path, and what behind it may be further steps -/
theorem PathFirst.all?_read? {cs left : List Char} {ss : List Step} {tokens : List PathToken}
    {f : List Step → Expr} (hfirst : PathFirst (Grammar.single cs.length) cs)
    (hpath : locationPath (Grammar.single cs.length) cs = some (f ss, left))
    (h : StepsRead (Grammar.single cs.length) tokens ss left) :
    all? read? cs = (stepsOf? tokens).map f := by
  obtain ⟨left', hl, hp⟩ := hfirst.reads_expression h.atSlash (hfirst.path_eq hpath h.moreSteps_eq)
  have hread : read? cs = some (f ss, left') := hp
  unfold all?
  rw [hread]
  rcases h with ⟨hsteps, rfl⟩ | ⟨hsteps, -, ds, hslash⟩
  · obtain rfl := hl.eq_nil
    rw [hsteps]
    rfl
  · rw [hsteps]
    cases left' with
    | nil =>
      rw [← hl.skip_eq] at hslash
      cases hslash
    | cons c left' => rfl

theorem read_of_named {q : Option String} {l : String} {ts : List SpacedToken}
    (h : (NodeTest.named q l).Lexical) (hts : ∀ t ∈ ts, t.Lexical) (hapart : Apart (.name q l) ts) :
    all? read? ((NodeTest.named q l).text ++ pathText ts) =
      pathOf? (.name q l :: ts.map (·.token)) := by
  obtain ⟨ss, left, hread, hpath⟩ := locationPath_of_named (Grammar.single _) h hts hapart
  exact (pathFirst_named _ h (atSlash_pathText hts hapart)).all?_read?
    (f := fun ss => .path .context (childNamed q l :: ss)) hpath hread

theorem pathFirst_separator (single : Scan Expr) (deep : Bool) (cs : List Char) :
    PathFirst single ((PathToken.separator deep).text ++ cs) := by
  cases deep <;> exact pathFirst_slash single _

theorem read_of_separator {q : Option String} {l : String} (deep : Bool) {ts : List SpacedToken}
    (h : (NodeTest.named q l).Lexical) (hts : ∀ t ∈ ts, t.Lexical) (hapart : Apart (.name q l) ts) :
    all? read? ((PathToken.separator deep).text ++ ((NodeTest.named q l).text ++ pathText ts)) =
      pathOf? (.separator deep :: .name q l :: ts.map (·.token)) := by
  obtain ⟨ss, left, hread, hpath⟩ := locationPath_of_separator (Grammar.single _) deep h hts hapart
  rw [pathOf?_separator]
  exact (pathFirst_separator _ deep _).all?_read?
    (f := fun ss => .path .root (behind (deep, childNamed q l) ++ ss)) hpath hread

/-- a leading `/` is not counted where another separator follows -/
theorem read_of_bare {ts : List SpacedToken} (hts : ∀ t ∈ ts, t.Lexical)
    (hapart : Apart (.separator false) ts) (hhead : ∀ t ∈ ts.head?, ∃ deep, t.token = .separator deep) :
    all? read? ('/' :: pathText ts) = (stepsOf? (ts.map (·.token))).map (.path .root) := by
  have hrest : Clear (pathText ts) ∧ Ends (· == '/') (pathText ts) ∧ Apart (.name none "") ts := by
    cases ts with
    | nil => exact ⟨clear_nil, ends_nil _, trivial⟩
    | cons t ts =>
      obtain ⟨gap, token⟩ := t
      obtain ⟨deep, rfl : token = .separator deep⟩ := hhead _ rfl
      have hgap : gap.all isSpace = true := (hts _ List.mem_cons_self).gap
      rw [pathText_cons]
      exact ⟨clear_gap hgap hapart.1 _, ends_slash_gap hgap (.inl hapart.1), hapart.2⟩
  obtain ⟨hclear, hslash, hnamed⟩ := hrest
  obtain ⟨ss, left, hmore, hread⟩ :=
    exists_moreSteps_pathText (Grammar.single ('/' :: pathText ts).length) hts hnamed _ (.refl _)
  exact (pathFirst_slash _ _).all?_read? (f := .path .root)
    (locationPath_of_bare (step_of_clear _ hclear) hslash hmore) hread

/-! ## any spacing -/

/-- a leading separator stands alone, or directly before what follows it -/
def Close : List SpacedToken → Prop
  | ⟨_, .separator _⟩ :: t :: _ => t.gap = []
  | _ => True

/-- what tokens are read as with blanks behind them -/
def readPath? (ts : List SpacedToken) (trail : List Char) : Option Expr :=
  (Expr.parse (String.ofList (pathText ts ++ trail))).toOption

theorem isBlank_of_all {cs : List Char} (h : cs.all isSpace = true) : cs.all isBlank = true :=
  List.all_eq_true.mpr fun c hc => isBlank_of_isSpace (List.all_eq_true.mp h c hc)

theorem readPath?_nil {trail : List Char} (h : trail.all isSpace = true) : readPath? [] trail = none := by
  have hstart : trimStart (trail ++ []) = [] :=
    List.dropWhile_append_of_pos (List.all_eq_true.mp (isBlank_of_all h))
  have htrim : trimChars ([] ++ trail) = [] := by
    rw [List.append_nil] at hstart
    unfold trimChars
    rw [List.nil_append, hstart]
    rfl
  have hread : all? read? [] = none := by decide +kernel
  exact (toOption_parse htrim).trans hread

theorem tight_token {token : PathToken} (h : token.Lexical) : Tight token.text := by
  cases token with
  | separator deep =>
    have hb : isBlank '/' = false := by decide
    cases deep with
    | true => exact (Tight.singleton hb).append (.singleton hb) []
    | false => exact .singleton hb
  | name q l => exact tight_nodeTest h

theorem tight_pathText {cs : List Char} (h : Tight cs) {ts : List SpacedToken}
    (hts : ∀ t ∈ ts, t.Lexical) : Tight (cs ++ pathText ts) := by
  induction ts generalizing cs with
  | nil => rwa [pathText_nil, List.append_nil]
  | cons t ts ih =>
    have ht : Tight (cs ++ (t.gap ++ t.token.text)) :=
      h.append (tight_token (hts t List.mem_cons_self).token) t.gap
    have hall := ih ht fun u hu => hts u (List.mem_cons_of_mem _ hu)
    rwa [List.append_assoc, List.append_assoc, ← pathText_cons] at hall

/-- blanks at the ends do not matter -/
theorem readPath?_cons {t : SpacedToken} {ts : List SpacedToken} {trail : List Char}
    (h : ∀ u ∈ t :: ts, u.Lexical) (htrail : trail.all isSpace = true) :
    readPath? (t :: ts) trail = all? read? (t.token.text ++ pathText ts) := by
  have ht : t.Lexical := h t List.mem_cons_self
  have htight := tight_pathText (tight_token ht.token) fun u hu => h u (List.mem_cons_of_mem _ hu)
  refine toOption_parse ?_
  rw [pathText_cons, List.append_assoc]
  exact htight.trimChars_append (isBlank_of_all ht.gap) (isBlank_of_all htrail)

theorem readPath?_close {ts : List SpacedToken} {trail : List Char} (h : Spelled ts)
    (htrail : trail.all isSpace = true) (hclose : Close ts) :
    readPath? ts trail = pathOf? (ts.map (·.token)) := by
  match ts, h with
  | [], _ => exact readPath?_nil htrail
  | ⟨gap, .name q l⟩ :: ts, ⟨hlex, hapart⟩ =>
    rw [readPath?_cons hlex htrail]
    exact read_of_named (hlex _ List.mem_cons_self).token
      (fun u hu => hlex u (List.mem_cons_of_mem _ hu)) hapart
  | [⟨gap, .separator deep⟩], ⟨hlex, hapart⟩ =>
    rw [readPath?_cons hlex htrail]
    cases deep with
    | true => exact read_of_deep clear_nil
    | false => exact read_of_bare (fun _ h => nomatch h) hapart fun _ h => nomatch h
  | ⟨gap, .separator deep⟩ :: ⟨gap', .separator deep'⟩ :: ts, ⟨hlex, hapart⟩ =>
    exact absurd hclose hapart.1
  | ⟨gap, .separator deep⟩ :: ⟨gap', .name q l⟩ :: ts, ⟨hlex, hapart⟩ =>
    obtain rfl : gap' = [] := hclose
    rw [readPath?_cons hlex htrail]
    have hts : ∀ u ∈ ⟨[], .name q l⟩ :: ts, u.Lexical := fun u hu => hlex u (List.mem_cons_of_mem _ hu)
    rw [pathText_cons]
    exact read_of_separator deep (hts _ List.mem_cons_self).token
      (fun u hu => hts u (List.mem_cons_of_mem _ hu)) hapart

section
variable {gap : List Char} {t : SpacedToken} {ts : List SpacedToken} {trail : List Char}

theorem readPath?_deep (h : ∀ u ∈ ⟨gap, .separator true⟩ :: t :: ts, u.Lexical)
    (htrail : trail.all isSpace = true) (hne : t.gap ≠ []) :
    readPath? (⟨gap, .separator true⟩ :: t :: ts) trail = none := by
  have hgap : t.gap.all isSpace = true := (h t (List.mem_cons_of_mem _ List.mem_cons_self)).gap
  rw [readPath?_cons h htrail, pathText_cons]
  exact read_of_deep (clear_gap hgap hne _)

theorem readPath?_bare {deep : Bool} (h : ∀ u ∈ ⟨gap, .separator false⟩ :: t :: ts, u.Lexical)
    (hapart : Apart (.separator false) (t :: ts)) (htrail : trail.all isSpace = true)
    (ht : t.token = .separator deep) :
    readPath? (⟨gap, .separator false⟩ :: t :: ts) trail =
      (stepsOf? ((t :: ts).map (·.token))).map (.path .root) := by
  rw [readPath?_cons h htrail]
  refine read_of_bare (fun u hu => h u (List.mem_cons_of_mem _ hu)) hapart fun u hu => ?_
  cases hu
  exact ⟨deep, ht⟩

theorem readPath?_ne {q : Option String} {l : String} {ss : List Step}
    (h : ∀ u ∈ ⟨gap, .separator false⟩ :: t :: ts, u.Lexical) (htrail : trail.all isSpace = true)
    (ht : t.token = .name q l) (hne : t.gap ≠ []) (hss : ss ≠ []) :
    readPath? (⟨gap, .separator false⟩ :: t :: ts) trail ≠ some (.path .root ss) := by
  obtain ⟨gap', token⟩ := t
  obtain rfl : token = .name q l := ht
  have hlex := h _ (List.mem_cons_of_mem _ List.mem_cons_self)
  have hname : (NodeTest.named q l).Lexical := hlex.token
  have hgap : gap'.all isSpace = true := hlex.gap
  have hslash := hname.ends_beq (d := '/') (by decide) (pathText ts)
  have hseparator : separator (gap' ++ ((NodeTest.named q l).text ++ pathText ts)) = none := by
    unfold separator
    rw [spaced_apply, skip_append_of_all hgap, ((tight_nodeTest hname).solid.append _).skip_eq]
    simp [afterPrefix?_of_ends hslash]
  rw [readPath?_cons h htrail, pathText_cons]
  exact read_ne_of_bare (clear_gap hgap hne _) hseparator hss

end

/-- **Tokens are read as the path that they stand for, or not at all**, if they are close.  With a
blank behind a leading separator no path is read as what it stands for. -/
theorem parse_pathText {ts : List SpacedToken} {trail : List Char} (h : Spelled ts)
    (htrail : trail.all isSpace = true) :
    (Close ts → readPath? ts trail = pathOf? (ts.map (·.token))) ∧
      (¬ Close ts →
        (∀ rest, ts.map (·.token) = .separator true :: rest → readPath? ts trail = none) ∧
        (∀ deep rest, ts.map (·.token) = .separator false :: .separator deep :: rest →
          readPath? ts trail = (stepsOf? (.separator deep :: rest)).map (.path .root)) ∧
        ∀ e, pathOf? (ts.map (·.token)) = some e → readPath? ts trail ≠ some e) := by
  refine ⟨readPath?_close h htrail, fun hclose => ?_⟩
  obtain ⟨gap, deep, t, ts, rfl⟩ : ∃ gap deep t ts', ts = ⟨gap, .separator deep⟩ :: t :: ts' := by
    match ts with
    | [] => exact absurd trivial hclose
    | ⟨_, .name ..⟩ :: _ => exact absurd trivial hclose
    | [⟨_, .separator _⟩] => exact absurd trivial hclose
    | ⟨gap, .separator deep⟩ :: t :: ts => exact ⟨gap, deep, t, ts, rfl⟩
  have hne : t.gap ≠ [] := hclose
  obtain ⟨hlex, hapart⟩ := h
  refine ⟨fun rest heq => ?_, fun deep' rest heq => ?_, fun e he => ?_⟩
  · cases heq
    exact readPath?_deep hlex htrail hne
  · obtain ⟨hdeep, hmore⟩ := List.cons.inj heq
    obtain ⟨htoken, -⟩ := List.cons.inj hmore
    cases hdeep
    rw [readPath?_bare hlex hapart htrail htoken, hmore]
  · cases deep with
    | true =>
      rw [readPath?_deep hlex htrail hne]
      exact fun h => nomatch h
    | false =>
      rw [List.map_cons, List.map_cons] at he
      cases ht : t.token with
      | separator deep =>
        rw [ht] at he
        simp [pathOf?, stepsOf?] at he
      | name q l =>
        rw [ht, pathOf?_separator, Option.map_eq_some_iff] at he
        obtain ⟨ss, -, rfl⟩ := he
        exact readPath?_ne hlex htrail ht hne (List.cons_ne_nil _ _)

/-- `/order //c:item `, with a tab and the end of a line around the second separator -/
def orderItems : List SpacedToken :=
  [⟨[], .separator false⟩, ⟨[], .name none "order"⟩, ⟨[' ', '\t'], .separator true⟩,
    ⟨['\n'], .name (some "c") "item"⟩]

/-- `/ order` -/
def strayedOrder : List SpacedToken := [⟨[], .separator false⟩, ⟨[' '], .name none "order"⟩]

theorem parse_pathText_order :
    Spelled orderItems ∧ readPath? orderItems [' '] =
        some (.path .root [childNamed none "order", .anywhere, childNamed (some "c") "item"]) ∧
      Spelled strayedOrder ∧
        readPath? strayedOrder [] ≠ some (.path .root [childNamed none "order"]) := by
  have horder : (NodeTest.named none "order").Lexical := ⟨(fun _ h => nomatch h), ⟨rfl, rfl⟩⟩
  have hitem : (NodeTest.named (some "c") "item").Lexical :=
    ⟨fun _ h => Option.some.inj h ▸ ⟨rfl, rfl⟩, ⟨rfl, rfl⟩⟩
  have hitems : Spelled orderItems := by
    refine ⟨?_, trivial⟩
    simp only [List.forall_mem_cons]
    exact ⟨⟨rfl, trivial⟩, ⟨rfl, horder⟩, ⟨rfl, trivial⟩, ⟨rfl, hitem⟩, fun _ h => nomatch h⟩
  have hstrayed : Spelled strayedOrder := by
    refine ⟨?_, trivial⟩
    simp only [List.forall_mem_cons]
    exact ⟨⟨rfl, trivial⟩, ⟨rfl, horder⟩, fun _ h => nomatch h⟩
  exact ⟨hitems, (parse_pathText hitems rfl).1 rfl, hstrayed,
    ((parse_pathText hstrayed rfl).2 (List.cons_ne_nil _ _)).2.2 _ rfl⟩

/-- a path that is not accepted because of a blank -/
theorem parse_pathText_ne_order :
    pathOf? (strayedOrder.map (·.token)) = some (.path .root [childNamed none "order"]) ∧
      readPath? strayedOrder [] = none :=
  ⟨rfl, by decide +kernel⟩

end Rulebook
