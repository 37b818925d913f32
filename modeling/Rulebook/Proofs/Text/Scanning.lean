import Rulebook.Expr.Grammar
import Rulebook.Text.Search

/-!
# What scans read

A scan applied to a text, for each way of building scans.  Most scans of the grammar take the
blanks behind them along, some do not; what comes next does not see the difference.

* `Grammar.skip`       a text without the blanks it begins with;
* `Grammar.Loose`      a rest, or the same without its blanks;
* `Grammar.Reads`      a scan gives a value and leaves the rest, its blanks aside;
* `Grammar.Solid`      a text that does not begin with a blank.

`Grammar.collect_flatMap`: **texts in a row, each of which is read in front of the next, are read
one after the other.**
-/

set_option autoImplicit false

namespace Rulebook

/-! ## scans applied to a text -/

namespace Text.Scan

variable {α β : Type} (p : Scan α) (q : Scan β) (cs : List Char)

@[simp] theorem pure_apply (a : α) : (pure a : Scan α) cs = some (a, cs) := rfl

@[simp] theorem bind_apply (f : α → Scan β) : (p >>= f) cs = (p cs).bind fun x => f x.1 x.2 := rfl

@[simp] theorem map_apply (f : α → β) :
    (f <$> p) cs = (p cs).map fun x => (f x.1, x.2) := by
  show (p cs).bind _ = _
  cases p cs <;> rfl

@[simp] theorem seqRight_apply : (p *> q) cs = (p cs).bind fun x => q x.2 := rfl

@[simp] theorem seqLeft_apply :
    (p <* q) cs = (p cs).bind fun x => (q x.2).map fun y => (x.1, y.2) := by
  show (p cs).bind _ = _
  congr 1
  funext x
  show (q x.2).bind _ = _
  cases q x.2 <;> rfl

@[simp] theorem orElse_apply (p' : Scan α) : (p <|> p') cs = (p cs).or (p' cs) := by
  show (p cs).orElse _ = _
  cases p cs <;> rfl

@[simp] theorem guard_apply (c : Prop) [Decidable c] :
    (guard c : Scan Unit) cs = if c then some ((), cs) else none := by
  unfold guard
  split <;> rfl

@[simp] theorem first_nil : first ([] : List (Scan α)) cs = none := rfl

@[simp] theorem first_cons (ps : List (Scan α)) : first (p :: ps) cs = (p cs).or (first ps cs) :=
  orElse_apply p cs (first ps)

@[simp] theorem choose_nil : choose ([] : List (Scan Unit × α)) cs = none := rfl

@[simp] theorem choose_cons (p : Scan Unit) (a : α) (ps : List (Scan Unit × α)) :
    choose ((p, a) :: ps) cs = ((p cs).map fun x => (a, x.2)).or (choose ps cs) := by
  show first ((p *> pure a) :: _) cs = _
  rw [first_cons, seqRight_apply]
  cases p cs <;> rfl

@[simp] theorem text_apply (s : String) :
    text s cs = (afterPrefix? s.toList cs).map fun rest => ((), rest) := rfl

@[simp] theorem many_apply : many p cs = some (collect p cs) := rfl

theorem optional?_of_some {a : α} {rest : List Char} (h : p cs = some (a, rest)) :
    optional? p cs = some (some a, rest) := by
  unfold optional?
  rw [h]

theorem optional?_of_none (h : p cs = none) : optional? p cs = some (none, cs) := by
  unfold optional?
  rw [h]

end Text.Scan

namespace Grammar

open Text Scan

variable {α β : Type}

/-! ## blanks -/

/-- a text without the blanks it begins with -/
def skip (cs : List Char) : List Char := cs.dropWhile isSpace

@[simp] theorem skip_nil : skip [] = [] := rfl

@[simp] theorem skip_space (cs : List Char) : skip (' ' :: cs) = skip cs := rfl

theorem skip_cons {c : Char} (h : isSpace c = false) (cs : List Char) :
    skip (c :: cs) = c :: cs := by
  unfold skip
  rw [List.dropWhile_cons, h]
  rfl

theorem skip_append_of_all {bs : List Char} (h : bs.all isSpace = true) (cs : List Char) :
    skip (bs ++ cs) = skip cs := by
  induction bs with
  | nil => rfl
  | cons b bs ih =>
    rw [List.all_cons, Bool.and_eq_true] at h
    unfold skip at ih ⊢
    rw [List.cons_append, List.dropWhile_cons, h.1, if_pos rfl, ih h.2]

@[simp] theorem skip_skip (cs : List Char) : skip (skip cs) = skip cs := by
  induction cs with
  | nil => rfl
  | cons c cs ih =>
    cases h : isSpace c with
    | false => rw [skip_cons h, skip_cons h]
    | true =>
      have hskip : skip (c :: cs) = skip cs := by
        unfold skip
        rw [List.dropWhile_cons, h, if_pos rfl]
      rw [hskip, ih]

theorem length_skip_le (cs : List Char) : (skip cs).length ≤ cs.length :=
  (List.dropWhile_sublist isSpace).length_le

@[simp] theorem blanks_apply (cs : List Char) : blanks cs = some ((), skip cs) := rfl

theorem spaced_apply (p : Scan α) (cs : List Char) :
    spaced p cs = (p (skip cs)).map fun x => (x.1, skip x.2) := by
  show (p (skip cs)).bind _ = _
  cases p (skip cs) <;> rfl

/-- a rest, or the same without its blanks -/
def Loose (rest left : List Char) : Prop := left = rest ∨ left = skip rest

namespace Loose

variable {rest left : List Char}

theorem refl (rest : List Char) : Loose rest rest := .inl rfl

theorem skip (rest : List Char) : Loose rest (skip rest) := .inr rfl

theorem skip_eq (h : Loose rest left) : Grammar.skip left = Grammar.skip rest := by
  rcases h with rfl | rfl
  · rfl
  · exact skip_skip rest

theorem length_le (h : Loose rest left) : left.length ≤ rest.length := by
  rcases h with rfl | rfl
  · exact Nat.le_refl _
  · exact length_skip_le rest

theorem eq_nil (h : Loose [] left) : left = [] := by
  rcases h with rfl | rfl <;> rfl

theorem spaced_eq (h : Loose rest left) (p : Scan α) : spaced p left = spaced p rest := by
  rw [spaced_apply, spaced_apply, h.skip_eq]

end Loose

/-! ## texts without a blank at the front -/

/-- begins, and not with a blank -/
def Solid : List Char → Prop
  | c :: _ => isSpace c = false
  | [] => False

theorem solid_cons {c : Char} (h : isSpace c = false) (cs : List Char) : Solid (c :: cs) := h

theorem Solid.append {cs : List Char} (h : Solid cs) (more : List Char) : Solid (cs ++ more) := by
  cases cs with
  | nil => exact h.elim
  | cons c cs => exact h

theorem Solid.skip_eq {cs : List Char} (h : Solid cs) : skip cs = cs := by
  cases cs with
  | nil => rfl
  | cons c cs => exact skip_cons h cs

theorem Solid.loose_eq {cs left : List Char} (h : Solid cs) (hl : Loose cs left) : left = cs := by
  rcases hl with rfl | rfl
  · rfl
  · exact h.skip_eq

theorem Solid.length_pos {cs : List Char} (h : Solid cs) : 0 < cs.length := by
  cases cs with
  | nil => exact h.elim
  | cons c cs => exact Nat.succ_pos _

/-! ## readings -/

/-- the scan gives the value and leaves the rest, its blanks aside -/
def Reads (p : Scan α) (cs : List Char) (a : α) (rest : List Char) : Prop :=
  ∃ left, Loose rest left ∧ p cs = some (a, left)

namespace Reads

variable {p : Scan α} {cs rest : List Char} {a : α}

theorem of_eq (h : p cs = some (a, rest)) : Reads p cs a rest := ⟨rest, .refl rest, h⟩

theorem of_skip (h : p cs = some (a, skip rest)) : Reads p cs a rest := ⟨skip rest, .skip rest, h⟩

theorem or_left (h : Reads p cs a rest) (q : Scan α) : Reads (p <|> q) cs a rest := by
  obtain ⟨left, hl, hp⟩ := h
  refine ⟨left, hl, ?_⟩
  rw [orElse_apply, hp]
  rfl

theorem or_right {q : Scan α} (h : Reads p cs a rest) (hq : q cs = none) :
    Reads (q <|> p) cs a rest := by
  obtain ⟨left, hl, hp⟩ := h
  refine ⟨left, hl, ?_⟩
  rw [orElse_apply, hq, hp]
  rfl

theorem optional (h : Reads p cs a rest) : Reads (Scan.optional? p) cs (some a) rest := by
  obtain ⟨left, hl, hp⟩ := h
  exact ⟨left, hl, optional?_of_some p cs hp⟩

end Reads

/-- a value between two signs; the scan for it may stop before the blanks of the second -/
theorem between_eq {p : Scan α} {l r : Char} (hl : isSpace l = false) (hr : isSpace r = false)
    {cs rest : List Char} {a : α} (hcs : Solid (cs ++ r :: rest))
    (h : Reads p (cs ++ r :: rest) a (r :: rest)) :
    between l r p (l :: (cs ++ r :: rest)) = some (a, skip rest) := by
  obtain ⟨middle, hm, hp⟩ := h
  obtain rfl := (solid_cons hr rest).loose_eq hm
  unfold between
  rw [bind_apply, spaced_apply, skip_cons hl, char, if_pos (beq_self_eq_true l),
    Option.map_some, Option.bind_some, hcs.skip_eq, bind_apply, hp, Option.bind_some, bind_apply,
    spaced_apply, skip_cons hr, char, if_pos (beq_self_eq_true r)]
  rfl

/-! ## repetition -/

/-- texts in a row: `Ok` is what each of them asks of what follows it -/
theorem collect_flatMap {ι : Type} {p : Scan α} {text : ι → List Char} {value : ι → α}
    {Ok : List Char → Prop} (hskip : ∀ cs, p (skip cs) = p cs) {xs : List ι} {rest : List Char}
    (hread : ∀ x ∈ xs, ∀ rest, Ok rest → Reads p (text x ++ rest) (value x) rest)
    (hsolid : ∀ x ∈ xs, Solid (text x)) (hok : ∀ x ∈ xs, ∀ rest, Ok (text x ++ rest))
    (hrest : Ok rest) (hstop : p rest = none) :
    ∀ left, Loose (xs.flatMap text ++ rest) left →
      ∃ left', Loose rest left' ∧ collect p left = (xs.map value, left') := by
  induction xs with
  | nil =>
    intro left hl
    have hsame : p left = p rest := by
      rw [← hskip left, hl.skip_eq]
      exact hskip rest
    exact ⟨left, hl, collect_of_none (hsame.trans hstop)⟩
  | cons x xs ih =>
    intro left hl
    rw [List.flatMap_cons, List.append_assoc] at hl
    have hsx : Solid (text x) := hsolid x List.mem_cons_self
    obtain rfl := (hsx.append _).loose_eq hl
    have hnext : Ok (xs.flatMap text ++ rest) := by
      cases xs with
      | nil => exact hrest
      | cons y ys =>
        rw [List.flatMap_cons, List.append_assoc]
        exact hok y (List.mem_cons_of_mem _ List.mem_cons_self) _
    obtain ⟨middle, hm, hp⟩ := hread x List.mem_cons_self _ hnext
    obtain ⟨left', hl', hmore⟩ := ih (fun y hy => hread y (List.mem_cons_of_mem _ hy))
      (fun y hy => hsolid y (List.mem_cons_of_mem _ hy))
      (fun y hy => hok y (List.mem_cons_of_mem _ hy)) middle hm
    have hlt : middle.length < (text x ++ (xs.flatMap text ++ rest)).length := by
      have := hm.length_le
      have := hsx.length_pos
      rw [List.length_append]
      omega
    refine ⟨left', hl', ?_⟩
    rw [collect_of_some hp hlt, hmore]
    rfl

end Grammar

end Rulebook
