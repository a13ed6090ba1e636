import Mathlib
import DoubleWord.U128.Float
import DoubleWord.Unsigned.Native
import DoubleWord.Proofs.Bits
import DoubleWord.Proofs.Arith

/-!
# Floats to two-word values

`U128.ofFloatBits` reads a float pattern by its fields: the significand, the implicit one put
back even for a subnormal, is shifted by the unbiased exponent less the fraction width, with two
cut-offs (a left shift of 128 or more and a right shift wider than the fraction give zero), and a
set sign bit negates the result modulo `2^128`. This module says what that computes in terms of
the float's exact value.

The value of a finite pattern is counted in least subnormals, `2^(1 - bias - fractionBits)`: a
subnormal is its fraction of them, a normal pattern with exponent field `e ≥ 1` is its
significand times `2^(e - 1)` of them (`Precision.units`). `Precision.value?` is that rational
number with its sign, and nothing for an all-ones exponent field. The library's `truncNat`,
which the shifts compute modulo `2^128` (`toNat_ofSignificand`), is the floor of the magnitude
(`floor_magnitude`); the range tests of the checked conversion are the exponent bounds at which
the magnitude passes one and `2^128` (`magnitude_lt_one_iff`, `magnitude_lt_modulus_iff`).

Main statement: `float_cast_exact`.
-/

set_option autoImplicit false

namespace DoubleWord

/-- A rational number rounded toward zero: the floor of a number that is not negative, the
ceiling of a negative one. -/
def roundTowardZero (x : ℚ) : ℤ := if 0 ≤ x then ⌊x⌋ else ⌈x⌉

theorem roundTowardZero_of_nonneg {q : ℚ} (hq : 0 ≤ q) : roundTowardZero q = ⌊q⌋ :=
  if_pos hq

/-- Rounding toward zero commutes with negation. -/
theorem roundTowardZero_neg {q : ℚ} (hq : 0 ≤ q) : roundTowardZero (-q) = -⌊q⌋ := by
  rcases hq.eq_or_lt with rfl | hpos
  · simp [roundTowardZero]
  · rw [roundTowardZero, if_neg (by linarith), Int.ceil_neg]

namespace Precision

/-! ## The exact value of a pattern -/

/-- The magnitude of a finite pattern in least subnormals: the fraction of a subnormal, and the
significand of a normal pattern scaled by its exponent field less one. -/
def units (p : Precision) (bits : Nat) : Nat :=
  if p.exponentOf bits = 0 then p.fractionOf bits
  else (2 ^ p.fractionBits + p.fractionOf bits) * 2 ^ (p.exponentOf bits - 1)

/-- The exact magnitude of a finite pattern: `units` least subnormals. -/
def magnitude (p : Precision) (bits : Nat) : ℚ :=
  p.units bits / 2 ^ (p.bias + p.fractionBits - 1)

/-- **The exact value of a pattern,** subnormals and signed zeros included; an infinity or a NaN
has none. -/
def value? (p : Precision) (bits : Nat) : Option ℚ :=
  if p.exponentOf bits = p.topExponent then none
  else some (if p.signOf bits then -p.magnitude bits else p.magnitude bits)

/-- Both formats have a positive bias and a fraction narrower than a word. -/
theorem format_bounds (p : Precision) : 1 ≤ p.bias ∧ p.fractionBits + 1 < 64 := by
  cases p <;> decide

variable (p : Precision) (bits : Nat)

theorem fractionOf_lt : p.fractionOf bits < 2 ^ p.fractionBits :=
  Nat.mod_lt _ (Nat.two_pow_pos _)

/-! ## The integer part -/

/-- The integer part is the magnitude in least subnormals, divided by their number in one. -/
theorem truncNat_eq_units_div :
    p.truncNat bits = p.units bits / 2 ^ (p.bias + p.fractionBits - 1) := by
  obtain ⟨hbias, -⟩ := format_bounds p
  have hf := fractionOf_lt p bits
  unfold truncNat units
  by_cases he : p.exponentOf bits = 0
  · -- a subnormal is below one
    rw [if_pos he, if_pos he, Nat.div_eq_of_lt]
    exact Nat.lt_of_lt_of_le hf (Nat.pow_le_pow_right (by decide) (by omega))
  · rw [if_neg he, if_neg he]
    simp only [Nat.pow_eq]
    split_ifs with hbig
    · -- an integer: the unit's power divides the scale
      rw [show p.exponentOf bits - 1 = (p.exponentOf bits - p.bias - p.fractionBits) +
          (p.bias + p.fractionBits - 1) by omega, pow_add, ← Nat.mul_assoc,
        Nat.mul_div_cancel _ (Nat.two_pow_pos _)]
    · rw [show p.bias + p.fractionBits - 1 = (p.bias + p.fractionBits - p.exponentOf bits) +
          (p.exponentOf bits - 1) by omega, pow_add,
        Nat.mul_div_mul_right _ _ (Nat.two_pow_pos _)]

/-- The significand of a pattern, with the implicit leading one, lies in `[2^fb, 2^(fb + 1))`. -/
theorem significand_bounds :
    2 ^ p.fractionBits ≤ 2 ^ p.fractionBits + p.fractionOf bits ∧
      2 ^ p.fractionBits + p.fractionOf bits < 2 ^ (p.fractionBits + 1) := by
  have hf := fractionOf_lt p bits
  rw [pow_succ]
  omega

/-- **The integer part as a shift of the significand:** up by the exponent's excess over
`bias + fractionBits`, or down by its shortfall; a subnormal is shifted down past all its
bits. -/
theorem truncNat_eq_shift :
    p.truncNat bits =
      if p.bias + p.fractionBits ≤ p.exponentOf bits then
        (2 ^ p.fractionBits + p.fractionOf bits) *
          2 ^ (p.exponentOf bits - p.bias - p.fractionBits)
      else
        (2 ^ p.fractionBits + p.fractionOf bits) /
          2 ^ (p.bias + p.fractionBits - p.exponentOf bits) := by
  obtain ⟨hbias, -⟩ := format_bounds p
  have hM := (significand_bounds p bits).2
  unfold truncNat
  simp only [Nat.pow_eq]
  by_cases he : p.exponentOf bits = 0
  · -- the implicit one of a subnormal is shifted out with the fraction
    rw [if_pos he, if_neg (by omega), eq_comm, Nat.div_eq_of_lt]
    exact Nat.lt_of_lt_of_le hM (Nat.pow_le_pow_right (by decide) (by omega))
  · rw [if_neg he]

/-! ## The value and its integer part -/

theorem value?_eq_none_iff : p.value? bits = none ↔ p.exponentOf bits = p.topExponent := by
  unfold value?
  split_ifs with h <;> simp [h]

theorem value?_eq_some_iff {x : ℚ} :
    p.value? bits = some x ↔ p.exponentOf bits ≠ p.topExponent ∧
      x = if p.signOf bits then -p.magnitude bits else p.magnitude bits := by
  unfold value?
  split_ifs with h <;> simp [h, eq_comm]

theorem magnitude_nonneg : 0 ≤ p.magnitude bits := by
  unfold magnitude
  positivity

/-- **The integer part the library computes is the floor of the magnitude.** -/
theorem floor_magnitude : ⌊p.magnitude bits⌋₊ = p.truncNat bits := by
  rw [magnitude, truncNat_eq_units_div, ← Nat.floor_div_eq_div (K := ℚ), Nat.cast_pow,
    Nat.cast_ofNat]

/-- A number between two powers of two is below `2 ^ b` exactly when the upper one is. -/
private theorem lt_two_pow_iff {a n : Nat} (hlo : 2 ^ a ≤ n) (hhi : n < 2 ^ (a + 1)) (b : Nat) :
    n < 2 ^ b ↔ a + 1 ≤ b := by
  constructor
  · intro h
    by_contra hb
    have := Nat.pow_le_pow_right (show 0 < 2 by decide) (show b ≤ a by omega)
    omega
  · intro hb
    exact Nat.lt_of_lt_of_le hhi (Nat.pow_le_pow_right (by decide) hb)

/-- **The integer part is zero exactly below the bias:** a magnitude below one has an exponent
field below `bias`. -/
theorem truncNat_eq_zero_iff : p.truncNat bits = 0 ↔ p.exponentOf bits < p.bias := by
  obtain ⟨hMlo, hMhi⟩ := significand_bounds p bits
  rw [truncNat_eq_shift]
  split_ifs with hbig
  · have hpos : 0 < 2 ^ p.fractionBits + p.fractionOf bits :=
      Nat.lt_of_lt_of_le (Nat.two_pow_pos _) hMlo
    constructor
    · intro h
      exact absurd h (Nat.mul_ne_zero hpos.ne' (Nat.two_pow_pos _).ne')
    · intro h
      omega
  · rw [Nat.div_eq_zero_iff_lt (Nat.two_pow_pos _), lt_two_pow_iff hMlo hMhi]
    omega

/-- **The integer part fits in 128 bits exactly below `bias + 128`.** -/
theorem truncNat_lt_modulus_iff :
    p.truncNat bits < modulus ↔ p.exponentOf bits < p.bias + 128 := by
  obtain ⟨hbias, hfb⟩ := format_bounds p
  obtain ⟨hMlo, hMhi⟩ := significand_bounds p bits
  rw [truncNat_eq_shift, show modulus = 2 ^ 128 from rfl]
  split_ifs with hbig
  · -- the significand shifted up stays between two powers of two
    have hlo : 2 ^ (p.fractionBits + (p.exponentOf bits - p.bias - p.fractionBits)) ≤
        (2 ^ p.fractionBits + p.fractionOf bits) *
          2 ^ (p.exponentOf bits - p.bias - p.fractionBits) := by
      rw [pow_add]
      exact Nat.mul_le_mul_right _ hMlo
    have hhi : (2 ^ p.fractionBits + p.fractionOf bits) *
          2 ^ (p.exponentOf bits - p.bias - p.fractionBits) <
        2 ^ (p.fractionBits + (p.exponentOf bits - p.bias - p.fractionBits) + 1) := by
      rw [Nat.add_right_comm, pow_add]
      exact Nat.mul_lt_mul_of_pos_right hMhi (Nat.two_pow_pos _)
    rw [lt_two_pow_iff hlo hhi]
    omega
  · -- shifted down, it stays below the significand's bound
    have hlt : (2 ^ p.fractionBits + p.fractionOf bits) /
        2 ^ (p.bias + p.fractionBits - p.exponentOf bits) < 2 ^ 128 :=
      Nat.lt_of_le_of_lt (Nat.div_le_self _ _)
        (Nat.lt_of_lt_of_le hMhi (Nat.pow_le_pow_right (by decide) (by omega)))
    exact iff_of_true hlt (by omega)

/-- A magnitude is below one exactly when its exponent field is below the bias. -/
theorem magnitude_lt_one_iff : p.magnitude bits < 1 ↔ p.exponentOf bits < p.bias := by
  rw [← Nat.floor_eq_zero, floor_magnitude, truncNat_eq_zero_iff]

/-- A magnitude is below `2^128` exactly when its exponent field is below `bias + 128`. -/
theorem magnitude_lt_modulus_iff :
    p.magnitude bits < modulus ↔ p.exponentOf bits < p.bias + 128 := by
  rw [← Nat.floor_lt (magnitude_nonneg p bits), floor_magnitude, truncNat_lt_modulus_iff]

/-- **Rounding a finite value toward zero** gives its integer part, with the value's sign. -/
theorem roundTowardZero_value {x : ℚ} (hx : p.value? bits = some x) :
    roundTowardZero x = if p.signOf bits then -(p.truncNat bits : ℤ) else p.truncNat bits := by
  obtain ⟨-, rfl⟩ := (value?_eq_some_iff p bits).1 hx
  have hfloor : ⌊p.magnitude bits⌋ = p.truncNat bits := by
    rw [← Int.natCast_floor_eq_floor (magnitude_nonneg p bits), floor_magnitude]
  split_ifs
  · rw [roundTowardZero_neg (magnitude_nonneg p bits), hfloor]
  · rw [roundTowardZero_of_nonneg (magnitude_nonneg p bits), hfloor]

/-- A finite value that is not negative has the integer part as its floor; a set sign bit
then marks a negative zero or a magnitude below one. -/
theorem natFloor_value {x : ℚ} (hx : p.value? bits = some x) (h0 : 0 ≤ x) :
    ⌊x⌋₊ = p.truncNat bits ∧ (p.signOf bits = true → p.truncNat bits = 0) := by
  have hround := roundTowardZero_value p bits hx
  rw [roundTowardZero_of_nonneg h0, ← Int.natCast_floor_eq_floor h0] at hround
  split_ifs at hround with hs <;> simp [hs] <;> omega

end Precision

open Precision

/-- The native conversion of a double to a 128-bit word, on a finite value in `[0, 2^128)`, is
the floor of that value. -/
theorem Native.toNat_ofDoubleBits_of_lt {bits : Nat} {x : ℚ}
    (hx : Precision.double.value? bits = some x) (h0 : 0 ≤ x) (hlt : x < modulus) :
    (Native.ofDoubleBits 128 bits).toNat = ⌊x⌋₊ := by
  obtain ⟨hne, -⟩ := (value?_eq_some_iff _ bits).1 hx
  obtain ⟨hfloor, hsign⟩ := natFloor_value _ bits hx h0
  have hfit : ⌊x⌋₊ < modulus := (Nat.floor_lt h0).2 (by exact_mod_cast hlt)
  have hnan : Precision.double.isNaN bits = false := by simp [Precision.isNaN, hne]
  unfold Native.ofDoubleBits
  simp only [hnan, Bool.false_eq_true, false_or, if_neg hne]
  split_ifs with hs
  · rw [hfloor, hsign hs]
    rfl
  · rw [BitVec.toNat_ofNat, hfloor]
    rw [hfloor] at hfit
    simp only [Nat.pow_eq, Nat.reducePow, modulus] at hfit ⊢
    omega

namespace U128

/-! ## Two-word values of floats -/

/-- **The shifts compute the integer part modulo `2^128`.** The three cases are those of the
shift's sign; a left shift of 128 or more loses every bit, and a right shift wider than the
fraction leaves none. -/
theorem toNat_ofSignificand (p : Precision) (bits : Nat) :
    (ofSignificand p bits).toNat = p.truncNat bits % modulus := by
  obtain ⟨hbias, hfb⟩ := format_bounds p
  obtain ⟨hMlo, hMhi⟩ := significand_bounds p bits
  have hMmod : 2 ^ p.fractionBits + p.fractionOf bits < modulus := by
    refine Nat.lt_of_lt_of_le hMhi ?_
    rw [show modulus = 2 ^ 128 from rfl]
    exact Nat.pow_le_pow_right (by decide) (by omega)
  -- the significand, the implicit one put back, is a value below `2^128`
  have hM : (ofNat (Nat.pow 2 p.fractionBits + p.fractionOf bits)).toNat =
      2 ^ p.fractionBits + p.fractionOf bits := by
    rw [toNat_ofNat, Nat.pow_eq, Nat.mod_eq_of_lt hMmod]
  rw [truncNat_eq_shift]
  simp only [ofSignificand]
  rcases lt_trichotomy (p.exponentOf bits) (p.bias + p.fractionBits) with hlt | heq | hgt
  · -- a shift down, by the exponent's shortfall
    have hamt : (-((p.exponentOf bits : ℤ) - p.bias - p.fractionBits)).toNat =
        p.bias + p.fractionBits - p.exponentOf bits := by omega
    rw [if_neg (show ¬ p.bias + p.fractionBits ≤ p.exponentOf bits by omega),
      if_neg (show ¬ (p.exponentOf bits : ℤ) - p.bias - p.fractionBits > 0 by omega),
      if_pos (show (p.exponentOf bits : ℤ) - p.bias - p.fractionBits < 0 by omega), hamt]
    split_ifs with hwide
    · -- every bit of the significand leaves
      rw [toNat_zero, Nat.div_eq_of_lt (Nat.lt_of_lt_of_le hMhi
        (Nat.pow_le_pow_right (by decide) (by omega))), Nat.zero_mod]
    · rw [toNat_shr, hM,
        Nat.mod_eq_of_lt (by omega : p.bias + p.fractionBits - p.exponentOf bits < 128),
        Nat.mod_eq_of_lt (Nat.lt_of_le_of_lt (Nat.div_le_self _ _) hMmod)]
  · -- no shift at all
    rw [if_pos (show p.bias + p.fractionBits ≤ p.exponentOf bits by omega),
      if_neg (show ¬ (p.exponentOf bits : ℤ) - p.bias - p.fractionBits > 0 by omega),
      if_neg (show ¬ (p.exponentOf bits : ℤ) - p.bias - p.fractionBits < 0 by omega), hM,
      heq, Nat.sub_sub, Nat.sub_self, pow_zero, Nat.mul_one, Nat.mod_eq_of_lt hMmod]
  · -- a shift up, by the exponent's excess
    have hamt : ((p.exponentOf bits : ℤ) - p.bias - p.fractionBits).toNat =
        p.exponentOf bits - p.bias - p.fractionBits := by omega
    rw [if_pos (show p.bias + p.fractionBits ≤ p.exponentOf bits by omega),
      if_pos (show (p.exponentOf bits : ℤ) - p.bias - p.fractionBits > 0 by omega), hamt]
    split_ifs with hfar
    · -- every bit passes `2^128`
      have hdvd : modulus ∣ 2 ^ (p.exponentOf bits - p.bias - p.fractionBits) := by
        rw [show modulus = 2 ^ 128 from rfl]
        exact Nat.pow_dvd_pow 2 (by omega)
      rw [toNat_zero, eq_comm]
      exact Nat.mod_eq_zero_of_dvd (Dvd.dvd.mul_left hdvd _)
    · rw [toNat_shl, hM,
        Nat.mod_eq_of_lt (by omega : p.exponentOf bits - p.bias - p.fractionBits < 128)]

/-- The shifted significand is the integer part, as a value modulo `2^128`. -/
theorem ofSignificand_eq (p : Precision) (bits : Nat) :
    ofSignificand p bits = ofNat (p.truncNat bits) :=
  ext_toNat (by rw [toNat_ofSignificand, toNat_ofNat])

/-- **A finite pattern's value is its signed integer part modulo `2^128`.** -/
theorem toNat_ofFloatBits (p : Precision) (bits : Nat) (h : p.exponentOf bits ≠ p.topExponent) :
    ((ofFloatBits p bits).toNat : ℤ) =
      (if p.signOf bits then -(p.truncNat bits : ℤ) else p.truncNat bits) % modulus := by
  rw [ofFloatBits, if_neg h, ofSignificand_eq]
  -- `modulus` is a numeral that omega must see
  split_ifs
  · rw [toNat_neg, toNat_ofNat]
    simp only [modulus]
    omega
  · rw [toNat_ofNat]
    simp only [modulus]
    omega

/-- A finite pattern whose value is in `[0, 2^128)` gives the floor of that value. -/
theorem toNat_ofFloatBits_of_lt {p : Precision} {bits : Nat} {x : ℚ} (hx : p.value? bits = some x)
    (h0 : 0 ≤ x) (hlt : x < modulus) : (ofFloatBits p bits).toNat = ⌊x⌋₊ := by
  obtain ⟨hne, -⟩ := (value?_eq_some_iff p bits).1 hx
  obtain ⟨hfloor, hsign⟩ := natFloor_value p bits hx h0
  have hfit : ⌊x⌋₊ < modulus := (Nat.floor_lt h0).2 (by exact_mod_cast hlt)
  have hv := toNat_ofFloatBits p bits hne
  simp only [modulus] at hv hfit
  split_ifs at hv with hs
  · rw [hsign hs] at hv hfloor
    omega
  · omega

/-- **The checked conversion of a double** answers the value rounded toward zero exactly when
the value lies in `(-1, 2^128)`, and nothing otherwise: an infinity and a NaN have no value. -/
theorem ofDoubleInRange?_eq_bind (bits : Nat) :
    ofDoubleInRange? bits = (Precision.double.value? bits).bind fun x =>
      if -1 < x ∧ x < modulus then some (ofNat (roundTowardZero x).toNat) else none := by
  have htop : Precision.double.bias + 128 ≤ Precision.double.topExponent := by decide
  by_cases he : Precision.double.exponentOf bits = Precision.double.topExponent
  · -- every branch refuses the top exponent, the NaN test or a range test
    rw [(value?_eq_none_iff _ bits).2 he, Option.bind_none]
    unfold ofDoubleInRange?
    dsimp only
    split_ifs <;> first | rfl | omega
  obtain ⟨x, hx⟩ := Option.ne_none_iff_exists'.1 (mt (value?_eq_none_iff _ bits).1 he)
  have hround := roundTowardZero_value _ bits hx
  have hm := magnitude_nonneg Precision.double bits
  have hnan : Precision.double.isNaN bits = false := by simp [Precision.isNaN, he]
  obtain ⟨-, rfl⟩ := (value?_eq_some_iff _ bits).1 hx
  rw [hx, Option.bind_some]
  unfold ofDoubleInRange?
  dsimp only
  simp only [hnan, Bool.false_eq_true, if_false]
  cases hs : Precision.double.signOf bits
  · -- a positive value is in range below `2^128`, at exponents below `bias + 128`
    simp only [hs, Bool.false_eq_true, if_false] at hround ⊢
    rw [hround, Int.toNat_natCast, ofFloatBits, if_neg he, hs, if_neg Bool.false_ne_true,
      ofSignificand_eq]
    by_cases hfit : Precision.double.exponentOf bits < Precision.double.bias + 128
    · rw [if_pos hfit, if_pos ⟨by linarith, (magnitude_lt_modulus_iff _ bits).2 hfit⟩]
    · rw [if_neg hfit, if_neg fun h => hfit ((magnitude_lt_modulus_iff _ bits).1 h.2)]
  · -- a negative value is in range above `-1`, at exponents below the bias
    simp only [hs, if_true] at hround ⊢
    by_cases hsmall : Precision.double.exponentOf bits < Precision.double.bias
    · have hlt := (magnitude_lt_one_iff _ bits).2 hsmall
      have hmod : (0 : ℚ) < modulus := Nat.cast_pos.2 (by decide)
      rw [if_pos hsmall, if_pos ⟨by linarith, by linarith⟩, hround,
        (truncNat_eq_zero_iff _ bits).2 hsmall]
      rfl
    · rw [if_neg hsmall,
        if_neg fun h => hsmall ((magnitude_lt_one_iff _ bits).1 (by linarith [h.1]))]

/-- **Converting a float to a two-word value.** A pattern has a value exactly when its exponent
field is not all ones; an infinity or a NaN gives zero. A finite value `x`, subnormals
included, gives `x` rounded toward zero, modulo `2^128`; for `x` in `[0, 2^128)` that is the floor
of `x`, which the native conversion of a double to 128 bits also answers. The checked conversion
of a double answers the rounded value exactly when `x` lies in `(-1, 2^128)`. -/
theorem float_cast_exact (p : Precision) (bits : Nat) :
    (p.value? bits = none ↔ p.exponentOf bits = p.topExponent) ∧
    (p.exponentOf bits = p.topExponent → ofFloatBits p bits = zero) ∧
    (∀ x, p.value? bits = some x →
      ((ofFloatBits p bits).toNat : ℤ) = roundTowardZero x % modulus) ∧
    (∀ x, p.value? bits = some x → 0 ≤ x → x < modulus →
      (ofFloatBits p bits).toNat = ⌊x⌋₊) ∧
    (∀ x, Precision.double.value? bits = some x → 0 ≤ x → x < modulus →
      (ofFloatBits .double bits).toNat = (Native.ofDoubleBits 128 bits).toNat) ∧
    ofDoubleInRange? bits = (Precision.double.value? bits).bind fun x =>
      if -1 < x ∧ x < modulus then some (ofNat (roundTowardZero x).toNat) else none := by
  refine ⟨value?_eq_none_iff p bits, fun h => by rw [ofFloatBits, if_pos h], ?_,
    fun x hx h0 hlt => toNat_ofFloatBits_of_lt hx h0 hlt, ?_, ofDoubleInRange?_eq_bind bits⟩
  · intro x hx
    rw [toNat_ofFloatBits p bits ((value?_eq_some_iff p bits).1 hx).1,
      roundTowardZero_value p bits hx]
  · intro x hx h0 hlt
    rw [toNat_ofFloatBits_of_lt hx h0 hlt, Native.toNat_ofDoubleBits_of_lt hx h0 hlt]

/-- The double `-1.5` is `2^128 - 1`: rounded toward zero to `-1`, then wrapped. -/
theorem float_cast_exact_minus_three_halves :
    Precision.double.value? 0xBFF8000000000000 = some (-3 / 2) ∧
      (ofFloatBits .double 0xBFF8000000000000).toNat = modulus - 1 := by
  have hv : Precision.double.value? 0xBFF8000000000000 = some (-3 / 2) := by
    -- the significand `1.1₂` at the exponent of one: `3 · 2^1073` least subnormals
    have hu : Precision.double.units 0xBFF8000000000000 = 3 * 2 ^ 1073 := by
      decide +kernel
    have hscale : Precision.double.bias + Precision.double.fractionBits - 1 = 1073 + 1 := by decide
    have hs : Precision.double.signOf 0xBFF8000000000000 = true := by decide
    rw [value?_eq_some_iff]
    refine ⟨by decide, ?_⟩
    rw [hs, if_pos rfl, magnitude, hu, hscale, pow_succ' (2 : ℚ), Nat.cast_mul, Nat.cast_pow,
      Nat.cast_ofNat, Nat.cast_ofNat, mul_div_mul_right _ _ (by positivity), neg_div]
  refine ⟨hv, ?_⟩
  have h := (float_cast_exact .double 0xBFF8000000000000).2.2.1 _ hv
  have hr : roundTowardZero (-3 / 2) = -1 := by
    rw [show (-3 / 2 : ℚ) = -(3 / 2) by ring, roundTowardZero_neg (by norm_num)]
    norm_num [Int.floor_eq_iff]
  rw [hr] at h
  simp only [modulus] at h ⊢
  omega

end U128

end DoubleWord
