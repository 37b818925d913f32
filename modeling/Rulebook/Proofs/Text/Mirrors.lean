import Rulebook.Proofs.Text.Entities

/-!
# Scans of texts with entities

Two scans, one of plain texts and one of the same texts with entities.

* `Grammar.Same`       the same is read in both cases, and what is left of the second are the
                       entities of what is left of the first;
* `Grammar.Mirrors`    so it is on all plain texts up to some length;
* `Grammar.Advances`   how many characters a scan reads at least.

Every way of building scans keeps `Mirrors`, as long as it asks for no marks.  Behind a scan that
advances it is enough to know shorter texts (`Mirrors.bind_of_advances`).
-/

set_option autoImplicit false

namespace Rulebook.Grammar

open Text Scan

variable {α β : Type} {k : Nat} {cs : List Char}

/-! ## outcomes -/

/-- nothing is read in both cases, or the same and the rests correspond -/
def Same (cs : List Char) (x x' : Option (α × List Char)) : Prop :=
  x = none ∧ x' = none ∨
    ∃ a rest, x = some (a, rest) ∧ x' = some (a, entities rest) ∧ Plain rest ∧ rest <:+ cs

theorem same_none : Same cs (none : Option (α × List Char)) none := .inl ⟨rfl, rfl⟩

theorem same_some {rest : List Char} (a : α) (h : Plain rest) (hrest : rest <:+ cs) :
    Same cs (some (a, rest)) (some (a, entities rest)) := .inr ⟨a, rest, rfl, rfl, h, hrest⟩

theorem Same.mono {ds : List Char} {x x' : Option (α × List Char)} (h : Same cs x x')
    (hcs : cs <:+ ds) : Same ds x x' := by
  rcases h with ⟨rfl, rfl⟩ | ⟨a, rest, rfl, rfl, hrest, hsuffix⟩
  · exact same_none
  · exact same_some a hrest (hsuffix.trans hcs)

theorem Same.or {x x' y y' : Option (α × List Char)} (hx : Same cs x x') (hy : Same cs y y') :
    Same cs (x.or y) (x'.or y') := by
  rcases hx with ⟨rfl, rfl⟩ | ⟨a, rest, rfl, rfl, hrest, hsuffix⟩
  · exact hy
  · exact same_some a hrest hsuffix

theorem Same.map {x x' : Option (α × List Char)} (h : Same cs x x') (f : α → β) :
    Same cs (x.map fun y => (f y.1, y.2)) (x'.map fun y => (f y.1, y.2)) := by
  rcases h with ⟨rfl, rfl⟩ | ⟨a, rest, rfl, rfl, hrest, hsuffix⟩
  · exact same_none
  · exact same_some (f a) hrest hsuffix

theorem Same.bind {x x' : Option (α × List Char)} {f f' : α → Scan β} (h : Same cs x x')
    (hf : ∀ a rest, x = some (a, rest) → Plain rest → rest <:+ cs →
      Same rest (f a rest) (f' a (entities rest))) :
    Same cs (x.bind fun y => f y.1 y.2) (x'.bind fun y => f' y.1 y.2) := by
  rcases h with ⟨rfl, rfl⟩ | ⟨a, rest, rfl, rfl, hrest, hsuffix⟩
  · exact same_none
  · exact (hf a rest rfl hrest hsuffix).mono hsuffix

/-- what comes behind a given text of unmarked characters -/
theorem same_afterPrefix? {start : List Char} (hs : start.any isMark = false) (h : Plain cs) :
    Same cs ((afterPrefix? start cs).map fun rest => ((), rest))
      ((afterPrefix? start (entities cs)).map fun rest => ((), rest)) := by
  rw [afterPrefix?_entities hs]
  cases hrest : afterPrefix? start cs with
  | none => exact same_none
  | some rest =>
    obtain ⟨hplain, hsuffix⟩ := rest_of_afterPrefix? hs h hrest
    exact same_some () hplain hsuffix

theorem same_choose {ds : List Char} {ps : List (Scan Unit × α)}
    (h : ∀ x ∈ ps, Same cs (x.1 cs) (x.1 ds)) : Same cs (choose ps cs) (choose ps ds) := by
  induction ps with
  | nil => exact same_none
  | cons x ps ih =>
    obtain ⟨hx, hps⟩ := List.forall_mem_cons.mp h
    rw [choose_cons, choose_cons]
    exact (hx.map fun _ => x.2).or (ih hps)

/-- on plain texts shorter than `k` the second scan reads off the entities what the first reads -/
def Mirrors (k : Nat) (p p' : Scan α) : Prop :=
  ∀ cs, cs.length < k → Plain cs → Same cs (p cs) (p' (entities cs))

/-- at least `d` characters are read -/
def Advances (d : Nat) (p : Scan α) : Prop :=
  ∀ cs a rest, p cs = some (a, rest) → rest.length + d ≤ cs.length

/-! ## ways of building scans -/

namespace Mirrors

variable {p p' : Scan α} {q q' : Scan β}

theorem of_succ (h : Mirrors (k + 1) p p') : Mirrors k p p' :=
  fun cs hk => h cs (Nat.lt_succ_of_lt hk)

protected theorem pure (a : α) : Mirrors k (pure a : Scan α) (pure a) :=
  fun _ _ hcs => same_some a hcs (List.suffix_refl _)

protected theorem bind {f f' : α → Scan β} (h : Mirrors k p p') (hf : ∀ a, Mirrors k (f a) (f' a)) :
    Mirrors k (p >>= f) (p' >>= f') := by
  intro cs hk hcs
  rw [bind_apply, bind_apply]
  refine (h cs hk hcs).bind fun a rest _ hrest hsuffix => hf a rest ?_ hrest
  exact Nat.lt_of_le_of_lt hsuffix.length_le hk

/-- behind at least one character it is enough to know shorter texts -/
theorem bind_of_advances {f f' : α → Scan β} (h : Mirrors (k + 1) p p') (hp : Advances 1 p)
    (hf : ∀ a, Mirrors k (f a) (f' a)) : Mirrors (k + 1) (p >>= f) (p' >>= f') := by
  intro cs hk hcs
  rw [bind_apply, bind_apply]
  refine (h cs hk hcs).bind fun a rest hread hrest _ => hf a rest ?_ hrest
  exact Nat.lt_of_succ_le ((hp cs a rest hread).trans (Nat.le_of_lt_succ hk))

protected theorem map (h : Mirrors k p p') (f : α → β) : Mirrors k (f <$> p) (f <$> p') :=
  h.bind fun a => .pure (f a)

protected theorem seqRight (h : Mirrors k p p') (hq : Mirrors k q q') :
    Mirrors k (p *> q) (p' *> q') :=
  h.bind fun _ => hq

protected theorem seqLeft (h : Mirrors k p p') (hq : Mirrors k q q') :
    Mirrors k (p <* q) (p' <* q') :=
  h.bind fun a => hq.bind fun _ => .pure a

protected theorem orElse {r r' : Scan α} (h : Mirrors k p p') (hr : Mirrors k r r') :
    Mirrors k (p <|> r) (p' <|> r') := by
  intro cs hk hcs
  rw [orElse_apply, orElse_apply]
  exact (h cs hk hcs).or (hr cs hk hcs)

theorem first_nil : Mirrors k (first ([] : List (Scan α))) (first []) := fun _ _ _ => same_none

theorem first_cons {ps ps' : List (Scan α)} (h : Mirrors k p p')
    (hps : Mirrors k (first ps) (first ps')) : Mirrors k (first (p :: ps)) (first (p' :: ps')) :=
  h.orElse hps

protected theorem choose {ps : List (Scan Unit × α)} (h : ∀ x ∈ ps, Mirrors k x.1 x.1) :
    Mirrors k (choose ps) (choose ps) :=
  fun cs hk hcs => same_choose fun x hx => h x hx cs hk hcs

protected theorem optional (h : Mirrors k p p') : Mirrors k (optional? p) (optional? p') := by
  intro cs hk hcs
  rcases h cs hk hcs with ⟨hp, hp'⟩ | ⟨a, rest, hp, hp', hrest, hsuffix⟩
  · rw [optional?_of_none _ _ hp, optional?_of_none _ _ hp']
    exact same_some none hcs (List.suffix_refl _)
  · rw [optional?_of_some _ _ hp, optional?_of_some _ _ hp']
    exact same_some (some a) hrest hsuffix

protected theorem lookAhead (h : Mirrors k p p') : Mirrors k (lookAhead p) (lookAhead p') := by
  intro cs hk hcs
  unfold lookAhead
  rcases h cs hk hcs with ⟨hp, hp'⟩ | ⟨a, rest, hp, hp', -, -⟩
  · rw [hp, hp']
    exact same_none
  · rw [hp, hp']
    exact same_some () hcs (List.suffix_refl _)

protected theorem notFollowedBy (h : Mirrors k p p') :
    Mirrors k (notFollowedBy p) (notFollowedBy p') := by
  intro cs hk hcs
  unfold notFollowedBy
  rcases h cs hk hcs with ⟨hp, hp'⟩ | ⟨a, rest, hp, hp', -, -⟩
  · rw [hp, hp']
    exact same_some () hcs (List.suffix_refl _)
  · rw [hp, hp']
    exact same_none

protected theorem guard (c : Prop) [Decidable c] :
    Mirrors k (guard c : Scan Unit) (guard c) := by
  intro cs _ hcs
  rw [guard_apply, guard_apply]
  split
  · exact same_some () hcs (List.suffix_refl _)
  · exact same_none

/-- both go on for the same time, as a rest is shorter if and only if its entities are -/
protected theorem many (h : Mirrors k p p') : Mirrors k (many p) (many p') := by
  intro cs hk hcs
  rw [many_apply, many_apply]
  induction hn : cs.length using Nat.strongRecOn generalizing cs with
  | ind n ih =>
    rcases h cs hk hcs with ⟨hp, hp'⟩ | ⟨a, rest, hp, hp', hrest, hsuffix⟩
    · rw [collect_of_none hp, collect_of_none hp']
      exact same_some [] hcs (List.suffix_refl _)
    · by_cases hlt : rest.length < cs.length
      · have hlt' := (length_entities_lt_iff hsuffix).mpr hlt
        rw [collect_of_some hp hlt, collect_of_some hp' hlt']
        have hmore := ih rest.length (hn ▸ hlt) rest (hlt.trans hk) hrest rfl
        exact (hmore.map fun as => a :: as).mono hsuffix
      · have hlt' := mt (length_entities_lt_iff hsuffix).mp hlt
        rw [collect_of_not_lt hp hlt, collect_of_not_lt hp' hlt']
        exact same_some [] hcs (List.suffix_refl _)

protected theorem sepBy1 (hq : Mirrors k q q') (h : Mirrors k p p') :
    Mirrors k (sepBy1 q p) (sepBy1 q' p') :=
  h.bind fun _ => (hq.seqRight h).many.bind fun _ => .pure _

protected theorem sepBy (hq : Mirrors k q q') (h : Mirrors k p p') :
    Mirrors k (sepBy q p) (sepBy q' p') :=
  (hq.sepBy1 h).orElse (.pure [])

/-! ## characters and texts -/

theorem satisfy_of_tame {t : Char → Bool} (ht : Tame t) : Mirrors k (satisfy t) (satisfy t) := by
  intro cs _ hcs
  cases cs with
  | nil => exact same_none
  | cons c cs =>
    rw [satisfy]
    cases hc : t c with
    | true =>
      have hunmarked := ht.unmarked hc
      rw [entities_cons_of_not_angle (isAngle_of_unmarked hunmarked), satisfy, if_pos rfl, if_pos hc]
      exact same_some c ((plain_cons (isQuote_of_unmarked hunmarked)).mp hcs) (List.suffix_cons _ _)
    | false =>
      rw [if_neg Bool.false_ne_true]
      rcases entities_cons_cases c cs with ⟨-, heq⟩ | ⟨-, ds, heq⟩
      · rw [heq, satisfy, hc, if_neg Bool.false_ne_true]
        exact same_none
      · rw [heq, satisfy, ht.amp, if_neg Bool.false_ne_true]
        exact same_none

theorem takeWhile_of_tame {t : Char → Bool} (ht : Tame t) :
    Mirrors k (Scan.takeWhile t) (Scan.takeWhile t) := by
  intro cs _ hcs
  obtain ⟨htake, hdrop⟩ := ht.cut_entities cs
  unfold Scan.takeWhile
  rw [htake, hdrop]
  exact same_some _ (ht.plain_dropWhile hcs) (List.dropWhile_suffix t)

protected theorem text {s : String} (hs : s.toList.any isMark = false) :
    Mirrors k (text s) (text s) :=
  fun _ _ => same_afterPrefix? hs

protected theorem char {c : Char} (hc : isMark c = false) : Mirrors k (char c) (char c) := by
  have htext : char c = fun cs => (afterPrefix? [c] cs).map fun rest => ((), rest) := by
    funext cs
    cases cs with
    | nil => rfl
    | cons d cs =>
      rw [char, afterPrefix?, Bool.beq_comm]
      split <;> simp
  rw [htext]
  exact fun _ _ => same_afterPrefix? (by rw [List.any_cons, hc]; rfl)

theorem takeWhile1_of_tame {t : Char → Bool} (ht : Tame t) :
    Mirrors k (takeWhile1 t) (takeWhile1 t) := by
  have hcut : takeWhile1 t = satisfy t >>= fun c => Scan.takeWhile t >>= fun cs => pure (c :: cs) := by
    funext cs
    rw [bind_apply]
    cases cs with
    | nil => rfl
    | cons c cs =>
      rw [takeWhile1, satisfy]
      cases t c <;> rfl
  rw [hcut]
  exact (satisfy_of_tame ht).bind fun _ => (takeWhile_of_tame ht).bind fun _ => .pure _

end Mirrors

/-! ## how far scans read -/

namespace Advances

variable {d : Nat} {p : Scan α}

theorem to_zero (h : Advances d p) : Advances 0 p :=
  fun cs a rest hp => (Nat.le_add_right _ d).trans (h cs a rest hp)

protected theorem pure (a : α) : Advances 0 (pure a : Scan α) := by
  rintro cs b rest ⟨⟩
  exact Nat.le_refl _

protected theorem bind {f : α → Scan β} (h : Advances d p) (hf : ∀ a, Advances 0 (f a)) :
    Advances d (p >>= f) := by
  intro cs b rest hr
  rw [bind_apply, Option.bind_eq_some_iff] at hr
  obtain ⟨⟨a, left⟩, hp, hq⟩ := hr
  have hleft := h cs a left hp
  have hrest := hf a left b rest hq
  omega

protected theorem optional (h : Advances d p) : Advances 0 (optional? p) := by
  intro cs a rest hr
  cases hp : p cs with
  | none =>
    rw [optional?_of_none _ _ hp] at hr
    cases hr
    exact Nat.le_refl _
  | some x =>
    rw [optional?_of_some _ _ hp] at hr
    cases hr
    exact h.to_zero cs _ _ hp

protected theorem spaced (h : Advances d p) : Advances d (spaced p) := by
  intro cs a rest hr
  rw [spaced_apply, Option.map_eq_some_iff] at hr
  obtain ⟨⟨b, left⟩, hp, heq⟩ := hr
  cases heq
  have hskip := length_skip_le cs
  have hread := h (skip cs) b left hp
  have hleft : (skip left).length ≤ left.length := length_skip_le left
  show (skip left).length + d ≤ cs.length
  omega

protected theorem choose {ps : List (Scan Unit × α)} (h : ∀ x ∈ ps, Advances d x.1) :
    Advances d (choose ps) := by
  induction ps with
  | nil => exact fun _ _ _ hr => absurd hr nofun
  | cons x ps ih =>
    obtain ⟨hx, hps⟩ := List.forall_mem_cons.mp h
    intro cs a rest hr
    rw [choose_cons, Option.or_eq_some_iff] at hr
    rcases hr with hr | ⟨-, hr⟩
    · obtain ⟨⟨b, left⟩, hp, heq⟩ := Option.map_eq_some_iff.mp hr
      cases heq
      exact hx cs _ _ hp
    · exact ih hps cs a rest hr

theorem satisfy (t : Char → Bool) : Advances 1 (satisfy t) := by
  intro cs a rest hr
  cases cs with
  | nil => cases hr
  | cons c cs =>
    rw [Scan.satisfy] at hr
    split at hr <;> cases hr
    exact Nat.le_refl _

protected theorem char (c : Char) : Advances 1 (char c) := by
  intro cs a rest hr
  cases cs with
  | nil => cases hr
  | cons d cs =>
    rw [Scan.char] at hr
    split at hr <;> cases hr
    exact Nat.le_refl _

protected theorem takeWhile (t : Char → Bool) : Advances 0 (Scan.takeWhile t) := by
  rintro cs a rest ⟨⟩
  exact (List.dropWhile_suffix t).length_le

protected theorem text {s : String} (hs : s.toList ≠ []) : Advances 1 (text s) := by
  intro cs a rest hr
  rw [text_apply, Option.map_eq_some_iff] at hr
  obtain ⟨left, hp, heq⟩ := hr
  cases heq
  rw [append_of_afterPrefix hp, List.length_append, Nat.add_comm]
  exact Nat.add_le_add_right (List.length_pos_of_ne_nil hs) _

protected theorem notFollowedBy (p : Scan α) : Advances 0 (notFollowedBy p) := by
  intro cs a rest hr
  unfold Scan.notFollowedBy at hr
  split at hr <;> cases hr
  exact Nat.le_refl _

end Advances

end Rulebook.Grammar
