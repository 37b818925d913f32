import Mathlib
import Rulebook.Number.Arithmetic

/-!
# Whole numbers as doubles

Whole numbers up to `2 ^ 53` are doubles, and are recognised as what they are.

* `Bits`                sign, exponent and fraction in the bits of a double;
* `shifted`             a whole number with all the digits that a double holds;
* `ofRatio_whole`       the bits of a whole number.

`toInt?_ofInt`: **a whole number of at most `2 ^ 53` is held exactly.**
-/

set_option autoImplicit false

namespace Rulebook.Number

/-! ## bits -/

/-- the bits of what is neither infinite nor no number stay as they are -/
theorem toBits_ofBits {bits : UInt64}
    (h : bits.toNat / Nat.pow 2 52 % Nat.pow 2 11 ≠ 2047) : (Float.ofBits bits).toBits = bits := by
  have hvalid : Float.Model.Format.binary64.Valid bits.toBitVec := by
    refine ⟨fun hexponent => absurd ?_ h⟩
    have hnat := congrArg BitVec.toNat hexponent
    rw [Float.Model.UnpackedFloat.unpackExponent_def, BitVec.extractLsb'_toNat,
      Nat.shiftRight_eq_div_pow] at hnat
    exact hnat
  have hpack := Float.Model.UnpackedFloat.pack_unpack_of_valid hvalid
  exact congrArg UInt64.ofBitVec hpack

/-- bits put together from a sign, an exponent and a fraction -/
structure Bits (n : Nat) (negative : Bool) (biased fraction : Nat) : Prop where
  fits : n < Nat.pow 2 64
  sign : (n / Nat.pow 2 63 == 1) = negative
  biased : n / Nat.pow 2 52 % Nat.pow 2 11 = biased
  fraction : n % Nat.pow 2 52 = fraction

theorem bits_of_parts (negative : Bool) {biased fraction : Nat} (hbiased : biased < 2047)
    (hfraction : fraction < Nat.pow 2 52) :
    Bits (signBit negative + (biased * Nat.pow 2 52 + fraction)) negative biased fraction := by
  have h63 : Nat.pow 2 63 = 9223372036854775808 := rfl
  have h64 : Nat.pow 2 64 = 18446744073709551616 := rfl
  have h52 : Nat.pow 2 52 = 4503599627370496 := rfl
  have h11 : Nat.pow 2 11 = 2048 := rfl
  have hsign : signBit negative = negative.toNat * 9223372036854775808 := by
    cases negative <;> rfl
  have hle := negative.toNat_le
  rw [h52] at hfraction
  rw [hsign, h52]
  constructor
  · rw [h64]
    omega
  · have hquotient : (negative.toNat * 9223372036854775808 +
        (biased * 4503599627370496 + fraction)) / 9223372036854775808 = negative.toNat := by
      omega
    rw [h63, hquotient]
    cases negative <;> rfl
  · rw [h52, h11]
    omega
  · rw [h52]
    omega

/-- a number made from a sign, an exponent and a fraction has these -/
theorem split_ofBits {n : Nat} {negative : Bool} {biased fraction : Nat}
    (h : Bits n negative biased fraction) (hpos : biased ≠ 0) (hbiased : biased < 2047) :
    split (Float.ofBits n.toUInt64) =
      .finite negative (Nat.pow 2 52 + fraction) (Int.ofNat biased - 1075) := by
  have hnat : n.toUInt64.toNat = n := Nat.mod_eq_of_lt h.fits
  have hne : n / Nat.pow 2 52 % Nat.pow 2 11 ≠ 2047 := h.biased ▸ Nat.ne_of_lt hbiased
  have hbits : (Float.ofBits n.toUInt64).toBits.toNat = n := by
    rw [toBits_ofBits (hnat.symm ▸ hne), hnat]
  unfold split
  dsimp only
  rw [hbits, h.sign, h.biased, h.fraction, if_neg (by simpa using hbiased.ne),
    if_neg (by simpa using hpos)]

/-! ## whole numbers -/

theorem roundHalfEven_one (n : Nat) : roundHalfEven n 1 = n := by
  unfold roundHalfEven
  rw [Nat.mod_one, Nat.div_one]
  rfl

/-- a whole number shifted so that it has all the digits that a double holds -/
def shifted (n : Nat) : Nat := n * Nat.pow 2 (52 - n.log2)

section
variable {n : Nat} (hpos : n ≠ 0) (hlt : n < Nat.pow 2 53)
include hpos hlt

theorem log2_le_of_lt : n.log2 ≤ 52 :=
  Nat.lt_succ_iff.mp ((Nat.log2_lt hpos).mpr hlt)

theorem shifted_bounds : Nat.pow 2 52 ≤ shifted n ∧ shifted n < Nat.pow 2 53 := by
  have hlog := log2_le_of_lt hpos hlt
  have hlow : 2 ^ n.log2 ≤ n := Nat.log2_self_le hpos
  have hhigh : n < 2 ^ (n.log2 + 1) := Nat.lt_log2_self
  constructor
  · calc 2 ^ 52 = 2 ^ n.log2 * 2 ^ (52 - n.log2) := by rw [← Nat.pow_add, Nat.add_sub_cancel' hlog]
      _ ≤ n * 2 ^ (52 - n.log2) := Nat.mul_le_mul_right _ hlow
  · calc n * 2 ^ (52 - n.log2) < 2 ^ (n.log2 + 1) * 2 ^ (52 - n.log2) :=
          Nat.mul_lt_mul_of_pos_right hhigh (Nat.two_pow_pos _)
      _ = 2 ^ 53 := by rw [← Nat.pow_add]; congr 1; omega

/-- either there are digits for all places, or zeros behind them -/
theorem places_cases : n.log2 = 52 ∨
    ¬0 ≤ Int.ofNat n.log2 - 52 ∧ (-(Int.ofNat n.log2 - 52)).toNat = 52 - n.log2 := by
  have hlog := log2_le_of_lt hpos hlt
  show n.log2 = 52 ∨ ¬(0 : Int) ≤ (n.log2 : Int) - 52 ∧ (-((n.log2 : Int) - 52)).toNat = 52 - n.log2
  omega

theorem lastPlace_whole : lastPlace n 1 = Int.ofNat n.log2 - 52 := by
  have hlog := log2_le_of_lt hpos hlt
  have hone : Nat.log2 1 = 0 := by decide
  have hnear : ¬(0 : Int) ≤ (n.log2 : Int) - (Nat.log2 1 : Nat) - 53 := by
    rw [hone]
    omega
  have hplaces : (-((n.log2 : Int) - (Nat.log2 1 : Nat) - 53)).toNat = 52 - n.log2 + 1 := by
    rw [hone]
    omega
  have hscaled : ¬n * Nat.pow 2 (52 - n.log2 + 1) / 1 < Nat.pow 2 53 := by
    have hbound := Nat.mul_le_mul_right 2 (shifted_bounds hpos hlt).1
    rw [Nat.div_one, Nat.not_lt]
    calc Nat.pow 2 53 = Nat.pow 2 52 * 2 := rfl
      _ ≤ n * Nat.pow 2 (52 - n.log2) * 2 := hbound
      _ = n * Nat.pow 2 (52 - n.log2 + 1) := Nat.mul_assoc _ _ _
  unfold lastPlace
  dsimp only
  rw [if_neg hnear, hplaces]
  dsimp only
  rw [if_neg hscaled, hone]
  show max (-1074 : Int) ((n.log2 : Int) - (0 : Nat) - 53 + 1) = (n.log2 : Int) - 52
  omega

/-- the digits that a whole number has as a double -/
theorem digits_whole :
    (if 0 ≤ lastPlace n 1 then roundHalfEven n (1 * Nat.pow 2 (lastPlace n 1).toNat)
      else roundHalfEven (n * Nat.pow 2 (-lastPlace n 1).toNat) 1) = shifted n := by
  unfold shifted
  rw [lastPlace_whole hpos hlt]
  rcases places_cases hpos hlt with heq | ⟨hnegative, hplaces⟩
  · rw [heq]
    show roundHalfEven n 1 = n * 1
    rw [roundHalfEven_one, Nat.mul_one]
  · rw [if_neg hnegative, hplaces, roundHalfEven_one]

theorem ofRatio_whole (negative : Bool) : ofRatio negative n 1 =
    Float.ofBits (signBit negative +
      ((n.log2 + 1023) * Nat.pow 2 52 + (shifted n - Nat.pow 2 52))).toUInt64 := by
  obtain ⟨hlow, hhigh⟩ := shifted_bounds hpos hlt
  have hlog := log2_le_of_lt hpos hlt
  have hplace : (lastPlace n 1 + 1074).toNat = n.log2 + 1022 := by
    rw [lastPlace_whole hpos hlt]
    show ((n.log2 : Int) - 52 + 1074).toNat = n.log2 + 1022
    omega
  have hbits : min ((n.log2 + 1022) * Nat.pow 2 52 + shifted n) infinityBits =
      (n.log2 + 1023) * Nat.pow 2 52 + (shifted n - Nat.pow 2 52) := by
    have h52 : Nat.pow 2 52 = 4503599627370496 := rfl
    have h53 : Nat.pow 2 53 = 9007199254740992 := rfl
    have hinfinity : infinityBits = 2047 * 4503599627370496 := rfl
    rw [h52] at hlow ⊢
    rw [h53] at hhigh
    rw [hinfinity]
    omega
  unfold ofRatio
  rw [if_neg (by simpa using hpos)]
  dsimp only
  rw [digits_whole hpos hlt, hplace, hbits]

theorem split_ofRatio_whole (negative : Bool) : split (ofRatio negative n 1) =
    .finite negative (shifted n) (Int.ofNat n.log2 - 52) := by
  obtain ⟨hlow, hhigh⟩ := shifted_bounds hpos hlt
  have hlog := log2_le_of_lt hpos hlt
  have hfraction : shifted n - Nat.pow 2 52 < Nat.pow 2 52 := by
    have hdouble : Nat.pow 2 53 = Nat.pow 2 52 + Nat.pow 2 52 := rfl
    omega
  have hbiased : n.log2 + 1023 < 2047 := by omega
  have hexponent : Int.ofNat (n.log2 + 1023) - 1075 = Int.ofNat n.log2 - 52 := by
    show ((n.log2 + 1023 : Nat) : Int) - 1075 = (n.log2 : Int) - 52
    omega
  rw [ofRatio_whole hpos hlt, split_ofBits (bits_of_parts negative hbiased hfraction) (by omega)
    hbiased, Nat.add_sub_cancel' hlow, hexponent]

/-- the digits without the zeros behind them -/
theorem asRatio_whole : ∃ den, den ≠ 0 ∧
    asRatio (shifted n) (Int.ofNat n.log2 - 52) = (n * den, den) := by
  unfold shifted
  rcases places_cases hpos hlt with heq | ⟨hnegative, hplaces⟩
  · refine ⟨1, Nat.one_ne_zero, ?_⟩
    rw [heq]
    show (n * 1 * 1, 1) = (n * 1, 1)
    rw [Nat.mul_one]
  · refine ⟨Nat.pow 2 (52 - n.log2), (Nat.two_pow_pos _).ne', ?_⟩
    unfold asRatio
    rw [if_neg hnegative, hplaces]

theorem toInt?_ofRatio_whole (negative : Bool) : toInt? (ofRatio negative n 1) =
    some (if negative then -Int.ofNat n else Int.ofNat n) := by
  obtain ⟨den, hden, hratio⟩ := asRatio_whole hpos hlt
  unfold toInt?
  rw [split_ofRatio_whole hpos hlt]
  dsimp only
  rw [hratio]
  dsimp only
  rw [Nat.mul_mod_left, Nat.mul_div_cancel _ (Nat.pos_of_ne_zero hden)]
  rfl

end

/-- **A whole number of at most `2 ^ 53` is held exactly.** -/
theorem toInt?_ofInt {k : Int} (h : k.natAbs ≤ Nat.pow 2 53) : toInt? (ofInt k) = some k := by
  rcases Nat.eq_or_lt_of_le h with heq | hlt
  · have hk : k = 9007199254740992 ∨ k = -9007199254740992 := Int.natAbs_eq_iff.mp heq
    rcases hk with rfl | rfl <;> decide +kernel
  · by_cases hzero : k = 0
    · subst hzero
      decide +kernel
    · unfold ofInt
      rw [toInt?_ofRatio_whole (Int.natAbs_ne_zero.mpr hzero) hlt]
      refine congrArg some ?_
      by_cases hnegative : k < 0
      · rw [if_pos (decide_eq_true hnegative)]
        show -(k.natAbs : Int) = k
        omega
      · rw [if_neg (by simpa using hnegative)]
        show (k.natAbs : Int) = k
        omega

end Rulebook.Number
