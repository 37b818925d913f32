import Rulebook.Proofs.Expr.Lexemes

/-!
# Levels of expressions

A text that the rule of one level reads is read by the rules of all looser levels too, in front of a
rest that none of them goes on with.

* `Level.scan`         the rule of the grammar for a level;
* `Level.Stops`        no sign of the level comes next, `Level.Follow` none of this level or a
                       tighter one;
* `Expr.linked`        an operand with the operators of one level and their operands behind it;
* `Readable`           a text that the rule of a level reads, in front of every such rest.

`Readable.at_level`: **what is readable at one level is readable at every looser one.**
-/

set_option autoImplicit false

namespace Rulebook

open Text Scan Grammar

/-! ## rules and what they go on with -/

namespace Level

section
variable (single : Scan Expr)

def scan : Level → Scan Expr
  | .whole | .sequence => expression (singleBody single)
  | .single => singleBody single
  | .disjunction => Grammar.disjunction single
  | .conjunction => Grammar.conjunction single
  | .equality => Grammar.equality single
  | .relation => relational single
  | .range => Grammar.range single
  | .sum => Grammar.sum single
  | .product => Grammar.product single
  | .sign => signed single
  | .union => Grammar.union single
  | .path => Grammar.path single
  | .filter => filtered single
  | .primary => Grammar.primary single

end

/-- what comes next does not go on an expression of the level -/
def Stops (rest : List Char) : Level → Prop
  | .whole | .sign => True
  | .sequence => comma rest = none
  | .single => spaced (word "then") rest = none
  | .range => spaced (word "to") rest = none
  | .path => separator rest = none
  | .filter => spaced (char '[') rest = none
  | .primary => spaced (char '(') rest = none
  | level => spaced (operator level) rest = none

/-- what can stand behind an expression at a place -/
structure Follow (level : Level) (rest : List Char) : Prop where
  clear : Clear rest
  stops : ∀ tighter, level ≤ tighter → tighter.Stops rest

theorem le_refl (l : Level) : l ≤ l := Nat.le_refl _

theorem le_trans {l m n : Level} (h : l ≤ m) (h' : m ≤ n) : l ≤ n := Nat.le_trans h h'

theorem le_next (l : Level) : l ≤ l.next := by cases l <;> decide

theorem le_primary (l : Level) : l ≤ primary := by cases l <;> decide

theorem next_le_of_ne {l m : Level} (h : l ≤ m) (hne : l ≠ m) : l.next ≤ m := by
  revert h hne
  cases l <;> cases m <;> decide

theorem Follow.mono {l m : Level} {rest : List Char} (h : Follow l rest) (hlm : l ≤ m) :
    Follow m rest :=
  ⟨h.clear, fun k hk => h.stops k (le_trans hlm hk)⟩

/-! ### rests -/

theorem follow_nil : Follow whole [] := ⟨clear_nil, fun k _ => by cases k <;> trivial⟩

theorem follow_parenthesis (cs : List Char) : Follow whole (')' :: cs) :=
  ⟨clear_cons (by decide) cs, fun k _ => by cases k <;> trivial⟩

theorem follow_bracket (cs : List Char) : Follow whole (']' :: cs) :=
  ⟨clear_cons (by decide) cs, fun k _ => by cases k <;> trivial⟩

theorem follow_comma (cs : List Char) : Follow single (',' :: cs) :=
  ⟨clear_cons (by decide) cs, fun k _ => by cases k <;> trivial⟩

theorem follow_else (cs : List Char) : Follow single (' ' :: ("else".toList ++ cs)) :=
  ⟨clear_cons (by decide) _, fun k _ => by cases k <;> trivial⟩

theorem follow_satisfies (cs : List Char) : Follow single (' ' :: ("satisfies".toList ++ cs)) :=
  ⟨clear_cons (by decide) _, fun k _ => by cases k <;> trivial⟩

theorem follow_to (cs : List Char) : Follow sum (' ' :: ("to".toList ++ ' ' :: cs)) :=
  ⟨clear_cons (by decide) _, fun k _ => by cases k <;> trivial⟩

theorem follow_slash (cs : List Char) : Follow filter ('/' :: cs) :=
  ⟨clear_cons (by decide) _, fun k _ => by cases k <;> trivial⟩

theorem follow_predicate (cs : List Char) : Follow primary ('[' :: cs) :=
  ⟨clear_cons (by decide) _, fun k _ => by cases k <;> trivial⟩

theorem follow_operator (op : BinaryOp) (cs : List Char) :
    Follow op.level.next (' ' :: (op.symbol.toList ++ ' ' :: cs)) := by
  refine ⟨clear_cons (by decide) _, fun k _ => ?_⟩
  rcases op with _ | _ | r | r | _ | _ | _ | _ | _ | _ <;> try cases r
  all_goals cases k <;> trivial

end Level

/-! ## chains -/

/-- an operator with the operand behind it -/
def Grammar.link (op : Scan BinaryOp) (operand : Scan Expr) : Scan (BinaryOp × Expr) := do
  let o ← spaced op
  let e ← operand
  return (o, e)

/-- an operand with links behind it -/
def Expr.linked (e : Expr) (links : List (BinaryOp × Expr)) : Expr :=
  links.foldl (fun left x => .binary x.1 left x.2) e

namespace Grammar

variable {op : Scan BinaryOp} {operand : Scan Expr} {cs rest left : List Char} {e : Expr}

theorem chain_apply (h : operand cs = some (e, left)) :
    chain op operand cs =
      some (e.linked (collect (link op operand) left).1, (collect (link op operand) left).2) := by
  show (operand cs).bind _ = _
  rw [h]
  rfl

theorem link_of_none (h : spaced op rest = none) (hl : Loose rest left) :
    link op operand left = none := by
  unfold link
  rw [bind_apply, hl.spaced_eq, h]
  rfl

theorem chain_of_stop (h : Reads operand cs e rest) (hop : spaced op rest = none) :
    Reads (chain op operand) cs e rest := by
  obtain ⟨left, hl, hp⟩ := h
  refine ⟨left, hl, ?_⟩
  rw [chain_apply hp, collect_of_none (link_of_none hop hl)]
  rfl

end Grammar

/-! ## from level to level -/

/-- neither a condition nor a quantifier, unless `then` follows -/
def Quiet (single : Scan Expr) (text : List Char) : Prop :=
  ∀ rest, spaced (word "then") rest = none →
    conditional single (text ++ rest) = none ∧ quantified single (text ++ rest) = none

/-- the rule of a level reads the text as the expression -/
structure Readable (single : Scan Expr) (level : Level) (text : List Char) (e : Expr) : Prop where
  tight : Tight text
  unsigned : Level.union ≤ level → Ends (· == '-') text
  quiet : Level.disjunction ≤ level → Quiet single text
  reads : ∀ rest, level.Follow rest → Reads (level.scan single) (text ++ rest) e rest

namespace Readable

variable {single : Scan Expr} {text : List Char} {e : Expr}

theorem reads_expression {cs rest : List Char} (h : Reads (singleBody single) cs e rest)
    (hstop : comma rest = none) : Reads (expression (singleBody single)) cs e rest := by
  obtain ⟨left, hl, hp⟩ := h
  have hnone : (comma *> singleBody single) left = none := by
    rw [seqRight_apply, comma, hl.spaced_eq, ← comma, hstop]
    rfl
  refine ⟨left, hl, ?_⟩
  simp [expression, sepBy1, hp, collect_of_none hnone]

theorem reads_singleBody {rest : List Char} (hq : Quiet single text)
    (h : Reads (Grammar.disjunction single) (text ++ rest) e rest)
    (hstop : spaced (word "then") rest = none) :
    Reads (singleBody single) (text ++ rest) e rest := by
  obtain ⟨hc, hs⟩ := hq rest hstop
  obtain ⟨left, hl, hp⟩ := h
  refine ⟨left, hl, ?_⟩
  simp [singleBody, hc, hs, hp]

theorem reads_range {cs rest : List Char} (h : Reads (Grammar.sum single) cs e rest)
    (hstop : spaced (word "to") rest = none) : Reads (Grammar.range single) cs e rest := by
  obtain ⟨left, hl, hp⟩ := h
  have hnone : (spaced (word "to") *> Grammar.sum single) left = none := by
    rw [seqRight_apply, hl.spaced_eq, hstop]
    rfl
  refine ⟨left, hl, ?_⟩
  simp [Grammar.range, hp, optional?_of_none _ _ hnone]

theorem minusSigns_of_ends {cs : List Char} (hs : Solid cs) (h : Ends (· == '-') cs) :
    minusSigns cs = some ([], cs) := by
  have hnone : spaced (char '-') cs = none := by
    rw [spaced_apply, hs.skip_eq, char_of_ends h]
    rfl
  rw [minusSigns, many_apply, collect_of_none hnone]

theorem reads_signed {cs rest : List Char} (hs : Solid cs) (hm : Ends (· == '-') cs)
    (h : Reads (Grammar.union single) cs e rest) : Reads (signed single) cs e rest := by
  obtain ⟨left, hl, hp⟩ := h
  refine ⟨left, hl, ?_⟩
  simp [signed, minusSigns_of_ends hs hm, hp]

theorem moreSteps_of_stop {rest left : List Char} (hl : Loose rest left)
    (hstop : separator rest = none) : moreSteps single left = some ([], left) := by
  have hnone : separator left = none := by
    rw [separator, hl.spaced_eq]
    exact hstop
  simp [moreSteps, collect_of_none, hnone]

theorem reads_path {cs rest : List Char}
    (h : Reads (filtered single <|> locationPath single) cs e rest)
    (hstop : separator rest = none) : Reads (Grammar.path single) cs e rest := by
  obtain ⟨left, hl, hp⟩ := h
  refine ⟨left, hl, ?_⟩
  unfold Grammar.path
  rw [bind_apply, hp]
  simp [moreSteps_of_stop hl hstop]

theorem predicate_of_stop {rest left : List Char} (hl : Loose rest left)
    (hstop : spaced (char '[') rest = none) : predicate single left = none := by
  unfold predicate between
  rw [bind_apply, hl.spaced_eq, hstop]
  rfl

theorem reads_filtered {cs rest : List Char} (h : Reads (Grammar.primary single) cs e rest)
    (hstop : spaced (char '[') rest = none) : Reads (filtered single) cs e rest := by
  obtain ⟨left, hl, hp⟩ := h
  refine ⟨left, hl, ?_⟩
  simp [filtered, hp, collect_of_none (predicate_of_stop hl hstop)]

/-- one level looser -/
theorem at_looser {l : Level} (h : Readable single l.next text e) : Readable single l text e where
  tight := h.tight
  unsigned hl := h.unsigned (Level.le_trans hl l.le_next)
  quiet hl := h.quiet (Level.le_trans hl l.le_next)
  reads rest hf := by
    have hnext := h.reads rest (hf.mono l.le_next)
    have hstop : l.Stops rest := hf.stops l l.le_refl
    cases l with
    | whole => exact hnext
    | sequence => exact reads_expression hnext hstop
    | single => exact reads_singleBody (h.quiet (by decide)) hnext hstop
    | disjunction | conjunction | equality | relation | sum | product | union =>
      exact chain_of_stop hnext hstop
    | range => exact reads_range hnext hstop
    | sign =>
      have hs := h.tight.solid
      refine reads_signed (hs.append rest) ?_ hnext
      intro c hc
      obtain ⟨d, ds, rfl⟩ := List.exists_cons_of_ne_nil h.tight.ne_nil
      exact h.unsigned (by decide) c hc
    | path => exact reads_path (hnext.or_left _) hstop
    | filter => exact reads_filtered hnext hstop
    | primary => exact hnext

/-- at every looser level -/
theorem at_level {l m : Level} (h : Readable single m text e) (hlm : l ≤ m) :
    Readable single l text e := by
  -- on the number of levels between the two
  induction hn : m.rank - l.rank generalizing l with
  | zero =>
    have hle : m.rank ≤ l.rank := Nat.le_of_sub_eq_zero hn
    have heq : l = m := by
      have hrank : l.rank = m.rank := Nat.le_antisymm hlm hle
      revert hrank
      cases l <;> cases m <;> decide
    exact heq ▸ h
  | succ n ih =>
    have hne : l ≠ m := by
      rintro rfl
      rw [Nat.sub_self] at hn
      cases hn
    have hrank : l.next.rank = l.rank + 1 := by
      cases l with
      | primary =>
        have hm : m.rank ≤ Level.primary.rank := m.le_primary
        omega
      | _ => rfl
    exact (ih (Level.next_le_of_ne hlm hne) (by omega)).at_looser

end Readable

end Rulebook
