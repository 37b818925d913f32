import Rulebook.Proofs.Text.Scanning
import Rulebook.Text.Search

/-!
# What scans leave

* `Scan.Leaves`     whatever is read, a suffix is left; `Scan.Consumes`  a proper one;
* `Scan.Tracks`     two scans read the same off all texts up to some length, and leave a suffix that
                    is shorter by some characters at least.

Every way of building scans keeps `Tracks`.  Behind a scan that consumes it is enough to know
shorter texts (`Tracks.bind_behind`).  A scan that tracks itself at every length is one that
consumes (`consumes_iff_tracks`), so both facts come out of one walk through the definition.
-/

set_option autoImplicit false

namespace Rulebook.Text

open scoped List

theorem suffix_of_afterPrefix? {start cs rest : List Char} (h : afterPrefix? start cs = some rest) :
    rest <:+ cs ∧ rest.length + start.length ≤ cs.length := by
  obtain rfl := append_of_afterPrefix h
  have hlength : rest.length + start.length = (start ++ rest).length := by
    rw [List.length_append, Nat.add_comm]
  exact ⟨List.suffix_append _ _, Nat.le_of_eq hlength⟩

namespace Scan

open Grammar

variable {α β : Type} {k d : Nat}

/-- whatever is read, a suffix is left -/
def Leaves (p : Scan α) : Prop := ∀ cs a rest, p cs = some (a, rest) → rest <:+ cs

/-- whatever is read, a proper suffix is left -/
def Consumes (p : Scan α) : Prop := ∀ cs a rest, p cs = some (a, rest) → rest <:+ cs ∧ rest ≠ cs

/-- on texts shorter than `k` both scans read the same, and leave a suffix without the first `d`
characters -/
def Tracks (k d : Nat) (p p' : Scan α) : Prop :=
  ∀ cs, cs.length < k → p' cs = p cs ∧
    ∀ a rest, p cs = some (a, rest) → rest <:+ cs ∧ rest.length + d ≤ cs.length

theorem length_lt_of_suffix {cs rest : List Char} (h : rest <:+ cs) (hne : rest ≠ cs) :
    rest.length < cs.length :=
  Nat.lt_of_le_of_ne h.length_le fun hlength => hne (h.eq_of_length hlength)

theorem leaves_iff_tracks {p : Scan α} : p.Leaves ↔ ∀ k, Tracks k 0 p p := by
  constructor
  · exact fun h k cs _ => ⟨rfl, fun a rest hp => ⟨h cs a rest hp, (h cs a rest hp).length_le⟩⟩
  · exact fun h cs a rest hp => ((h _ cs (Nat.lt_succ_self _)).2 a rest hp).1

theorem consumes_iff_tracks {p : Scan α} : p.Consumes ↔ ∀ k, Tracks k 1 p p := by
  constructor
  · intro h k cs _
    refine ⟨rfl, fun a rest hp => ?_⟩
    obtain ⟨hsuffix, hne⟩ := h cs a rest hp
    exact ⟨hsuffix, length_lt_of_suffix hsuffix hne⟩
  · intro h cs a rest hp
    obtain ⟨hsuffix, hlt⟩ := (h _ cs (Nat.lt_succ_self _)).2 a rest hp
    refine ⟨hsuffix, ?_⟩
    rintro rfl
    exact Nat.not_succ_le_self _ hlt

namespace Tracks

variable {p p' : Scan α} {q q' : Scan β}

theorem shorter {k' : Nat} (h : Tracks k d p p') (hk : k' ≤ k) : Tracks k' d p p' :=
  fun cs hcs => h cs (Nat.lt_of_lt_of_le hcs hk)

theorem of_succ (h : Tracks (k + 1) d p p') : Tracks k d p p' := h.shorter (Nat.le_succ k)

theorem loose (h : Tracks k d p p') : Tracks k 0 p p' := by
  intro cs hcs
  refine ⟨(h cs hcs).1, fun a rest hp => ?_⟩
  obtain ⟨hsuffix, -⟩ := (h cs hcs).2 a rest hp
  exact ⟨hsuffix, hsuffix.length_le⟩

/-! ## ways of building scans -/

protected theorem pure (a : α) : Tracks k 0 (pure a : Scan α) (pure a) := by
  refine fun cs _ => ⟨rfl, ?_⟩
  rintro _ _ ⟨⟩
  exact ⟨List.suffix_refl _, Nat.le_refl _⟩

protected theorem failure : Tracks k d (failure : Scan α) failure :=
  fun _ _ => ⟨rfl, fun _ _ hp => nomatch hp⟩

/-- all that is needed of the second scan is what it does on what the first one leaves -/
theorem bind_of {e : Nat} {f f' : α → Scan β} (h : Tracks k d p p')
    (hf : ∀ a, Tracks (k - d) e (f a) (f' a)) : Tracks k (d + e) (p >>= f) (p' >>= f') := by
  intro cs hcs
  obtain ⟨heq, hleft⟩ := h cs hcs
  rw [bind_apply, bind_apply, heq]
  cases hp : p cs with
  | none => exact ⟨rfl, fun _ _ hr => nomatch hr⟩
  | some x =>
    obtain ⟨a, left⟩ := x
    obtain ⟨hsuffix, hlength⟩ := hleft a left hp
    obtain ⟨heq', hrest⟩ := hf a left (by omega)
    refine ⟨heq', fun b rest hr => ?_⟩
    obtain ⟨hsuffix', hlength'⟩ := hrest b rest hr
    exact ⟨hsuffix'.trans hsuffix, by omega⟩

protected theorem bind {f f' : α → Scan β} (h : Tracks k d p p')
    (hf : ∀ a, Tracks k 0 (f a) (f' a)) : Tracks k d (p >>= f) (p' >>= f') :=
  h.bind_of fun a => (hf a).shorter (Nat.sub_le k d)

/-- behind a scan that consumes it is enough to know shorter texts -/
theorem bind_behind {f f' : α → Scan β} (h : Tracks (k + 1) 1 p p')
    (hf : ∀ a, Tracks k 0 (f a) (f' a)) : Tracks (k + 1) 1 (p >>= f) (p' >>= f') :=
  h.bind_of hf

/-- what is left is up to the second scan -/
theorem after {f f' : α → Scan β} (h : Tracks k 0 p p') (hf : ∀ a, Tracks k d (f a) (f' a)) :
    Tracks k d (p >>= f) (p' >>= f') := by
  have hbind := h.bind_of (e := d) fun a => (hf a).shorter (Nat.sub_le k 0)
  rwa [Nat.zero_add] at hbind

protected theorem map (h : Tracks k d p p') (f : α → β) : Tracks k d (f <$> p) (f <$> p') :=
  h.bind fun a => .pure (f a)

protected theorem seqRight (h : Tracks k d p p') (hq : Tracks k 0 q q') :
    Tracks k d (p *> q) (p' *> q') :=
  h.bind fun _ => hq

protected theorem seqLeft (h : Tracks k d p p') (hq : Tracks k 0 q q') :
    Tracks k d (p <* q) (p' <* q') :=
  h.bind fun a => hq.bind fun _ => .pure a

protected theorem orElse {r r' : Scan α} (h : Tracks k d p p') (hr : Tracks k d r r') :
    Tracks k d (p <|> r) (p' <|> r') := by
  intro cs hcs
  obtain ⟨hp, hleft⟩ := h cs hcs
  obtain ⟨hr, hright⟩ := hr cs hcs
  rw [orElse_apply, orElse_apply, hp, hr]
  refine ⟨rfl, fun a rest hread => ?_⟩
  rcases Option.or_eq_some_iff.mp hread with hread | ⟨-, hread⟩
  · exact hleft a rest hread
  · exact hright a rest hread

theorem first_cons {ps ps' : List (Scan α)} (h : Tracks k d p p')
    (hps : Tracks k d (first ps) (first ps')) : Tracks k d (first (p :: ps)) (first (p' :: ps')) :=
  h.orElse hps

protected theorem choose {ps : List (Scan Unit × α)} (h : ∀ x ∈ ps, Tracks k d x.1 x.1) :
    Tracks k d (choose ps) (choose ps) := by
  induction ps with
  | nil => exact .failure
  | cons x ps ih =>
    obtain ⟨hx, hps⟩ := List.forall_mem_cons.mp h
    exact (hx.seqRight (.pure x.2)).orElse (ih hps)

protected theorem optional (h : Tracks k d p p') : Tracks k 0 (optional? p) (optional? p') := by
  intro cs hcs
  obtain ⟨heq, hleft⟩ := h.loose cs hcs
  unfold optional?
  rw [heq]
  refine ⟨rfl, fun a rest hr => ?_⟩
  cases hp : p cs with
  | none =>
    rw [hp] at hr
    cases hr
    exact ⟨List.suffix_refl _, Nat.le_refl _⟩
  | some x =>
    rw [hp] at hr
    cases hr
    exact hleft _ _ hp

protected theorem lookAhead (h : Tracks k d p p') : Tracks k 0 (lookAhead p) (lookAhead p') := by
  intro cs hcs
  unfold lookAhead
  rw [(h cs hcs).1]
  refine ⟨rfl, fun a rest hr => ?_⟩
  obtain ⟨x, -, heq⟩ := Option.map_eq_some_iff.mp hr
  cases heq
  exact ⟨List.suffix_refl _, Nat.le_refl _⟩

protected theorem notFollowedBy (h : Tracks k d p p') :
    Tracks k 0 (notFollowedBy p) (notFollowedBy p') := by
  intro cs hcs
  unfold notFollowedBy
  rw [(h cs hcs).1]
  refine ⟨rfl, fun a rest hr => ?_⟩
  split at hr <;> cases hr
  exact ⟨List.suffix_refl _, Nat.le_refl _⟩

protected theorem guard (c : Prop) [Decidable c] :
    Tracks k 0 (guard c : Scan Unit) (guard c) := by
  refine fun cs _ => ⟨rfl, fun a rest hr => ?_⟩
  rw [guard_apply] at hr
  split at hr <;> cases hr
  exact ⟨List.suffix_refl _, Nat.le_refl _⟩

/-- what is repeated consumes, so both go on for the same time and stop only where nothing more is
read -/
protected theorem many (h : Tracks k 1 p p') : Tracks k 0 (many p) (many p') := by
  intro cs hcs
  induction hn : cs.length using Nat.strongRecOn generalizing cs with
  | ind n ih =>
    subst hn
    obtain ⟨heq, hleft⟩ := h cs hcs
    rw [many_apply, many_apply]
    cases hp : p cs with
    | none =>
      rw [collect_of_none hp, collect_of_none (heq.trans hp)]
      refine ⟨rfl, ?_⟩
      rintro _ _ ⟨⟩
      exact ⟨List.suffix_refl _, Nat.le_refl _⟩
    | some x =>
      obtain ⟨a, left⟩ := x
      obtain ⟨hsuffix, hlt⟩ := hleft a left hp
      obtain ⟨hmore, hrest⟩ := ih left.length hlt left (Nat.lt_trans hlt hcs) rfl
      rw [many_apply, many_apply] at hmore
      rw [collect_of_some hp hlt, collect_of_some (heq.trans hp) hlt, Option.some.inj hmore]
      refine ⟨rfl, ?_⟩
      rintro _ _ ⟨⟩
      obtain ⟨hsuffix', hlength⟩ := hrest _ _ rfl
      exact ⟨hsuffix'.trans hsuffix, by omega⟩

protected theorem sepBy1 (hq : Tracks k 1 q q') (h : Tracks k d p p') :
    Tracks k d (sepBy1 q p) (sepBy1 q' p') :=
  h.bind fun _ => (hq.seqRight h.loose).many.bind fun _ => .pure _

protected theorem sepBy (hq : Tracks k 1 q q') (h : Tracks k d p p') :
    Tracks k 0 (sepBy q p) (sepBy q' p') :=
  (hq.sepBy1 h).loose.orElse (.pure [])

/-! ## characters and texts -/

protected theorem satisfy (t : Char → Bool) : Tracks k 1 (satisfy t) (satisfy t) := by
  refine fun cs _ => ⟨rfl, fun a rest hr => ?_⟩
  cases cs with
  | nil => cases hr
  | cons c cs =>
    rw [satisfy] at hr
    split at hr <;> cases hr
    exact ⟨List.suffix_cons _ _, Nat.le_refl _⟩

protected theorem char (c : Char) : Tracks k 1 (char c) (char c) := by
  refine fun cs _ => ⟨rfl, fun a rest hr => ?_⟩
  cases cs with
  | nil => cases hr
  | cons d cs =>
    rw [char] at hr
    split at hr <;> cases hr
    exact ⟨List.suffix_cons _ _, Nat.le_refl _⟩

protected theorem text {s : String} (hs : s.toList ≠ []) : Tracks k 1 (text s) (text s) := by
  refine fun cs _ => ⟨rfl, fun a rest hr => ?_⟩
  rw [text_apply] at hr
  obtain ⟨left, hp, heq⟩ := Option.map_eq_some_iff.mp hr
  cases heq
  obtain ⟨hsuffix, hlength⟩ := suffix_of_afterPrefix? hp
  have hpos := List.length_pos_iff.mpr hs
  exact ⟨hsuffix, by omega⟩

protected theorem takeWhile (t : Char → Bool) :
    Tracks k 0 (Scan.takeWhile t) (Scan.takeWhile t) := by
  refine fun cs _ => ⟨rfl, ?_⟩
  rintro _ _ ⟨⟩
  exact ⟨List.dropWhile_suffix t, (List.dropWhile_suffix t).length_le⟩

protected theorem takeWhile1 (t : Char → Bool) : Tracks k 1 (takeWhile1 t) (takeWhile1 t) := by
  refine fun cs _ => ⟨rfl, fun a rest hr => ?_⟩
  cases cs with
  | nil => cases hr
  | cons c cs =>
    rw [takeWhile1] at hr
    split at hr <;> cases hr
    have hsuffix := List.dropWhile_suffix (l := cs) t
    exact ⟨hsuffix.trans (List.suffix_cons _ _), Nat.succ_le_succ hsuffix.length_le⟩

end Tracks

end Scan

end Rulebook.Text
