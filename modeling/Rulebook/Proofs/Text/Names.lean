import Rulebook.Text.Alphabet

/-!
# Characters of names

The tables of letters and numbers against the blanks: a number in a set of ranges is in one of those
that the set was made of, so it is enough to go once through the text of a table.

`isBlank_of_isNameChar`: **no character of a name is a blank.**
-/

set_option autoImplicit false

namespace Rulebook.Text

/-! ## numbers in ranges -/

namespace Ranges

/-- a number among ascending ranges is in one of them -/
theorem bounds_of_among {n : Nat} : ∀ {ps : List (Nat × Nat)}, among n ps = true →
    ∃ p ∈ ps, p.1 ≤ n ∧ n ≤ p.2
  | p :: ps, h => by
    unfold among at h
    split at h
    · cases h
    · rename_i hlow
      rw [Bool.or_eq_true, decide_eq_true_eq] at h
      rcases h with h | h
      · exact ⟨p, List.mem_cons_self, Nat.le_of_not_lt hlow, h⟩
      · obtain ⟨q, hq, hn⟩ := bounds_of_among h
        exact ⟨q, List.mem_cons_of_mem _ hq, hn⟩

theorem bounds_of_join {n : Nat} {ps : List (Nat × Nat)} : ∀ {p r : Nat × Nat}, r ∈ join p ps →
    r.1 ≤ n → n ≤ r.2 → ∃ q ∈ p :: ps, q.1 ≤ n ∧ n ≤ q.2 := by
  induction ps with
  | nil =>
    intro p r hr hlow hhigh
    rw [join, List.mem_singleton] at hr
    exact ⟨p, List.mem_cons_self, hr ▸ hlow, hr ▸ hhigh⟩
  | cons q ps ih =>
    intro p r hr hlow hhigh
    unfold join at hr
    split at hr
    · rename_i htouch
      obtain ⟨s, hs, hsn⟩ := ih hr hlow hhigh
      rcases List.mem_cons.mp hs with rfl | hs
      · by_cases hp : n ≤ p.2
        · exact ⟨p, List.mem_cons_self, hsn.1, hp⟩
        · have hq : n ≤ q.2 := by
            have hmax : n ≤ max p.2 q.2 := hsn.2
            omega
          exact ⟨q, List.mem_cons_of_mem _ List.mem_cons_self, by omega, hq⟩
      · exact ⟨s, List.mem_cons_of_mem _ (List.mem_cons_of_mem _ hs), hsn⟩
    · rcases List.mem_cons.mp hr with rfl | hr
      · exact ⟨r, List.mem_cons_self, hlow, hhigh⟩
      · obtain ⟨s, hs, hsn⟩ := ih hr hlow hhigh
        exact ⟨s, List.mem_cons_of_mem _ hs, hsn⟩

theorem bounds_of_ofList {n : Nat} {ps : List (Nat × Nat)} (h : among n (ofList ps).list = true) :
    ∃ p ∈ ps, p.1 ≤ n ∧ n ≤ p.2 := by
  unfold ofList at h
  split at h
  · cases h
  · rename_i p qs hsort
    obtain ⟨r, hr, hlow, hhigh⟩ := bounds_of_among h
    obtain ⟨q, hq, hqn⟩ := bounds_of_join hr hlow hhigh
    rw [← hsort] at hq
    exact ⟨q, List.mem_mergeSort.mp hq, hqn⟩

/-- the range that a word of a table stands for -/
def ofWord (word : List Char) : Nat × Nat :=
  match hexNumber word 0 with
  | (lo, '-' :: rest) => (lo, (hexNumber rest 0).1)
  | (lo, _) => (lo, lo)

theorem ofText_eq (text : String) : ofText text = ofList ((wordsFrom [] text.toList).map ofWord) := by
  unfold ofText words
  rw [List.map_map]
  congr 2
  funext word
  rw [Function.comp_apply, String.toList_ofList]
  rfl

theorem among_ofList_eq_false {ns : List Nat} {ps : List (Nat × Nat)}
    (h : (ps.all fun p => ns.all fun n => n < p.1 || p.2 < n) = true) {n : Nat} (hn : n ∈ ns) :
    among n (ofList ps).list = false := by
  rw [Bool.eq_false_iff]
  intro hamong
  obtain ⟨p, hp, hlow, hhigh⟩ := bounds_of_ofList hamong
  have houtside := List.all_eq_true.mp (List.all_eq_true.mp h p hp) n hn
  simp only [Bool.or_eq_true, decide_eq_true_eq] at houtside
  omega

end Ranges

/-! ## blanks outside the tables -/

/-- the blanks beyond ASCII -/
def wideBlanks : List Nat :=
  [0x85, 0xA0, 0x1680, 0x2000, 0x2001, 0x2002, 0x2003, 0x2004, 0x2005, 0x2006, 0x2007, 0x2008,
    0x2009, 0x200A, 0x2028, 0x2029, 0x202F, 0x205F, 0x3000]

theorem toNat_mem_of_isBlank {c : Char} (h : isBlank c = true) :
    c.toNat ∈ [9, 10, 11, 12, 13, 32] ∨ 128 ≤ c.toNat ∧ c.toNat ∈ wideBlanks := by
  simp only [isBlank, Bool.or_eq_true, Bool.and_eq_true, decide_eq_true_eq, beq_iff_eq] at h
  simp only [wideBlanks, List.mem_cons, List.not_mem_nil]
  omega

-- the tables are long: their texts are evaluated once, by the kernel
theorem among_alphabetic_of_wide {n : Nat} (hn : n ∈ wideBlanks) :
    Ranges.among n alphabetic.list = false := by
  unfold alphabetic
  rw [Ranges.ofText_eq, String.toList_ofList]
  exact Ranges.among_ofList_eq_false (by decide +kernel) hn

theorem among_numeric_of_wide {n : Nat} (hn : n ∈ wideBlanks) :
    Ranges.among n numeric.list = false := by
  unfold numeric
  rw [Ranges.ofText_eq, String.toList_ofList]
  exact Ranges.among_ofList_eq_false (by decide +kernel) hn

theorem isBlank_of_isNameChar {c : Char} (h : isNameChar c = true) : isBlank c = false := by
  rw [Bool.eq_false_iff]
  intro hblank
  rcases toNat_mem_of_isBlank hblank with hn | ⟨hge, hn⟩
  · have hc : c = Char.ofNat c.toNat := (Char.ofNat_toNat c).symm
    simp only [List.mem_cons, List.not_mem_nil, or_false] at hn
    rcases hn with hn | hn | hn | hn | hn | hn <;>
      · rw [hn] at hc
        subst hc
        revert h
        decide
  · have hlt : ¬ c.toNat < 128 := Nat.not_lt.mpr hge
    have halpha : isAlphabetic c = false := by
      unfold isAlphabetic
      rw [if_neg hlt]
      exact among_alphabetic_of_wide hn
    have hnumeric : isNumeric c = false := by
      unfold isNumeric
      rw [if_neg hlt]
      exact among_numeric_of_wide hn
    -- the three signs of names are in ASCII
    simp only [isNameChar, halpha, hnumeric, Bool.false_or, Bool.or_eq_true, beq_iff_eq] at h
    rcases h with (rfl | rfl) | rfl <;> exact hlt (by decide)

end Rulebook.Text
