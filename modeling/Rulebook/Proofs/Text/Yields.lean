import Rulebook.Proofs.Text.Scanning

/-!
# What scans yield

A condition that all values of a scan satisfy, whatever the text, for each way of building scans.
A scan that is built from others need only be followed through its definition.

* `Scan.Yields`  all that a scan reads is like this.
-/

set_option autoImplicit false

namespace Rulebook.Text.Scan

variable {α β : Type} {p : Scan α} {q : Scan β} {P P' : α → Prop} {Q : β → Prop}

/-- all that a scan reads is like this -/
def Yields (p : Scan α) (P : α → Prop) : Prop := ∀ cs a rest, p cs = some (a, rest) → P a

namespace Yields

theorem mono (h : p.Yields P) (himp : ∀ a, P a → P' a) : p.Yields P' :=
  fun cs a rest hp => himp a (h cs a rest hp)

theorem trivial : p.Yields fun _ => True := fun _ _ _ _ => True.intro

theorem pure {a : α} (h : P a) : (Pure.pure a : Scan α).Yields P := by
  intro cs a' rest hp
  cases hp
  exact h

theorem bind {f : α → Scan β} (h : p.Yields P) (hf : ∀ a, P a → (f a).Yields Q) :
    (p >>= f).Yields Q := by
  intro cs b rest hp
  obtain ⟨⟨a, left⟩, ha, hb⟩ := Option.bind_eq_some_iff.mp hp
  exact hf a (h cs a left ha) left b rest hb

/-- what comes first does not matter -/
theorem after {f : α → Scan β} (hf : ∀ a, (f a).Yields Q) : (p >>= f).Yields Q :=
  trivial.bind fun a _ => hf a

theorem seqRight (h : q.Yields Q) : (p *> q).Yields Q := by
  intro cs b rest hp
  obtain ⟨⟨a, left⟩, -, hb⟩ := Option.bind_eq_some_iff.mp hp
  exact h left b rest hb

theorem map {f : α → β} (h : p.Yields P) (hf : ∀ a, P a → Q (f a)) : (f <$> p).Yields Q := by
  intro cs b rest hp
  rw [map_apply] at hp
  obtain ⟨⟨a, left⟩, ha, heq⟩ := Option.map_eq_some_iff.mp hp
  cases heq
  exact hf a (h cs a left ha)

theorem orElse {p' : Scan α} (h : p.Yields P) (h' : p'.Yields P) : (p <|> p').Yields P := by
  intro cs a rest hp
  rw [orElse_apply] at hp
  rcases Option.or_eq_some_iff.mp hp with hp | ⟨-, hp⟩
  · exact h cs a rest hp
  · exact h' cs a rest hp

theorem failure : (failure : Scan α).Yields P := fun _ _ _ hp => nomatch hp

theorem first_cons {ps : List (Scan α)} (h : p.Yields P) (hs : (first ps).Yields P) :
    (Scan.first (p :: ps)).Yields P :=
  h.orElse hs

theorem optional? (h : p.Yields P) : (optional? p).Yields fun a? => ∀ a ∈ a?, P a := by
  intro cs a? rest hp a ha
  cases ha
  cases hcs : p cs with
  | none =>
    rw [optional?_of_none p cs hcs] at hp
    cases hp
  | some x =>
    rw [optional?_of_some p cs hcs] at hp
    cases hp
    exact h cs _ _ hcs

theorem collect (h : p.Yields P) (cs : List Char) : ∀ a ∈ (collect p cs).1, P a := by
  fun_induction Scan.collect p cs with
  | case1 cs a rest hcs _ _ ih => exact List.forall_mem_cons.mpr ⟨h cs a rest hcs, ih⟩
  | case2 | case3 => exact fun _ ha => absurd ha List.not_mem_nil

theorem many (h : p.Yields P) : (many p).Yields fun as => ∀ a ∈ as, P a := by
  intro cs as rest hp
  have hall := h.collect cs
  rw [Option.some.inj hp] at hall
  exact hall

theorem guard (c : Prop) [Decidable c] : (guard c : Scan Unit).Yields fun _ => c := by
  intro cs a rest hp
  rw [guard_apply] at hp
  by_cases hc : c
  · exact hc
  · rw [if_neg hc] at hp
    cases hp

theorem sepBy1 (h : p.Yields P) : (sepBy1 q p).Yields fun as => as ≠ [] ∧ ∀ a ∈ as, P a :=
  h.bind fun _ ha => h.seqRight.many.bind fun _ has =>
    .pure ⟨List.cons_ne_nil _ _, List.forall_mem_cons.mpr ⟨ha, has⟩⟩

theorem sepBy (h : p.Yields P) : (sepBy q p).Yields fun as => ∀ a ∈ as, P a :=
  (h.sepBy1.mono fun _ has => has.2).orElse (.pure fun _ ha => absurd ha List.not_mem_nil)

theorem satisfy (test : Char → Bool) : (satisfy test).Yields fun c => test c = true := by
  intro cs c rest hp
  cases cs with
  | nil => cases hp
  | cons d ds =>
    by_cases htest : test d = true
    · rw [Scan.satisfy, if_pos htest] at hp
      cases hp
      exact htest
    · rw [Scan.satisfy, if_neg htest] at hp
      cases hp

theorem takeWhile (test : Char → Bool) : (takeWhile test).Yields fun cs => cs.all test = true := by
  intro cs taken rest hp
  cases hp
  exact List.all_takeWhile

theorem takeWhile1 (test : Char → Bool) :
    (takeWhile1 test).Yields fun cs => cs ≠ [] ∧ cs.all test = true := by
  intro cs taken rest hp
  cases cs with
  | nil => cases hp
  | cons d ds =>
    by_cases htest : test d = true
    · rw [Scan.takeWhile1, if_pos htest] at hp
      cases hp
      exact ⟨List.cons_ne_nil _ _, Bool.and_eq_true_iff.mpr ⟨htest, List.all_takeWhile⟩⟩
    · rw [Scan.takeWhile1, if_neg htest] at hp
      cases hp

end Yields

end Rulebook.Text.Scan
